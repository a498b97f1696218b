import TsnProtocol.Bn254.DigestReduction
import TsnProtocol.Crosschain.DirectCapacity
import TsnProtocol.Crosschain.ProvedLogs
import TsnProtocol.Crosschain.RouteAdmission
import TsnProtocol.Crosschain.RoutePreflight
import TsnProtocol.Crosschain.Stranding
import TsnProtocol.Escrow.NonDilution
import TsnProtocol.Escrow.SettlementTerms
import TsnProtocol.Escrow.TreasuryBooks
import TsnProtocol.Escrow.Withdrawals
import TsnProtocol.Faucet.Books
import TsnProtocol.Gpru.MemoAgreement
import TsnProtocol.Gpru.VerifierSetup
import TsnProtocol.HiddenHead.DeltaEncryption
import TsnProtocol.HiddenHead.NoDoubleSpend
import TsnProtocol.HiddenHead.ValueConservation
import TsnProtocol.Node.AttestationOrder
import TsnProtocol.Node.EpochRollover
import TsnProtocol.Node.NonceReceipts
import TsnProtocol.Receiver.Completion
import TsnProtocol.Receiver.CrankerSessions
import TsnProtocol.Receiver.LeaseWindow
import TsnProtocol.Receiver.LocalFirestore
import TsnProtocol.Tcap.Authorization
import TsnProtocol.Tcap.BalanceReads
import TsnProtocol.Tcap.CreditBinding
import TsnProtocol.Tcap.CreditGate
import TsnProtocol.Tcap.CustodyMigration
import TsnProtocol.Tcap.FundingLedger
import TsnProtocol.Tcap.TipSealLayout
import TsnProtocol.Tcap.VaultBooks
import TsnProtocol.Tip.RouteTree
import TsnProtocol.Tip.StagedCreation
import TsnProtocol.Tsn.EscrowAuthority
import TsnProtocol.Tsn.Permit
import TsnProtocol.Gpru.DnaKeyAgreement
import TsnProtocol.Node.BaseUnits
import TsnProtocol.Node.CanonicalMessages
import TsnProtocol.Node.OwnerIntents
import TsnProtocol.Node.PayoutPermit
import TsnProtocol.Tcap.AccountReaders
import TsnProtocol.Tsn.AcceptIntent
import TsnProtocol.Tcap.AccumulatorRoot
import TsnProtocol.Node.CurvePoints
import TsnProtocol.Node.Base58Texts
import TsnProtocol.Node.DeltaCipher
import TsnProtocol.Sdk.Encryption
import TsnProtocol.Tip.RegistryJournal
import TsnProtocol.Tsn.CreditAuthorization
