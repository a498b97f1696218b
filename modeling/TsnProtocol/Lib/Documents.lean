import Mathlib

/-!
Collections of documents under their ids, and queries with a limit.
-/

namespace TsnProtocol.Lib.Documents

variable {Doc : Type}

/-- Ids by their characters. -/
abbrev byId : String → String → Ordering := @compare String String.instOrd

/-- Documents by their ids, in the order of the ids. -/
abbrev Collection (Doc : Type) := Std.ExtTreeMap String Doc byId

variable {collection : Collection Doc} {id other : String} {doc : Doc}

theorem get_insert_self : (collection.insert id doc)[id]? = some doc := by
  simp

theorem get_insert_of_ne (hother : other ≠ id) :
    (collection.insert id doc)[other]? = collection[other]? := by
  have hcompare : byId id other ≠ .eq :=
    fun hsame => hother (Std.LawfulEqCmp.eq_of_compare hsame).symm
  rw [Std.ExtTreeMap.getElem?_insert, if_neg hcompare]

/-- What is found after an insertion is what was inserted, or was there before. -/
theorem of_get_insert {found : Doc} (hfound : (collection.insert id doc)[other]? = some found) :
    other = id ∧ found = doc ∨ other ≠ id ∧ collection[other]? = some found := by
  by_cases hother : other = id
  · rw [hother, get_insert_self, Option.some.injEq] at hfound
    exact .inl ⟨hother, hfound.symm⟩
  · rw [get_insert_of_ne hother] at hfound
    exact .inr ⟨hother, hfound⟩

theorem get_erase_self : (collection.erase id)[id]? = none := by
  simp

theorem get_erase_of_ne (hother : other ≠ id) :
    (collection.erase id)[other]? = collection[other]? := by
  have hcompare : byId id other ≠ .eq :=
    fun hsame => hother (Std.LawfulEqCmp.eq_of_compare hsame).symm
  rw [Std.ExtTreeMap.getElem?_erase, if_neg hcompare]

/-- The ids of a collection are distinct. -/
theorem nodup_ids : (collection.toList.map Prod.fst).Nodup := by
  have hdistinct : collection.toList.Pairwise fun left right => left.1 ≠ right.1 :=
    Std.ExtTreeMap.distinct_keys_toList.imp Std.ReflCmp.ne_of_cmp_ne_eq
  rwa [List.Nodup, List.pairwise_map]

theorem get_insertMany_of_mem {entries : List (String × Doc)}
    (hdistinct : (entries.map Prod.fst).Nodup) (hmem : (id, doc) ∈ entries) :
    (collection.insertMany entries)[id]? = some doc := by
  refine Std.ExtTreeMap.getElem?_insertMany_list_of_mem Std.ReflCmp.compare_self ?_ hmem
  rw [List.Nodup, List.pairwise_map] at hdistinct
  exact hdistinct.imp fun hother hsame => hother (Std.LawfulEqCmp.eq_of_compare hsame)

theorem get_insertMany_of_not_mem {entries : List (String × Doc)}
    (hnot : id ∉ entries.map Prod.fst) :
    (collection.insertMany entries)[id]? = collection[id]? :=
  Std.ExtTreeMap.getElem?_insertMany_list_of_contains_eq_false (by simpa using hnot)

/-- The first documents that match, in the order of their ids. -/
def query (collection : Collection Doc) (matching : Doc → Bool) (limit : Nat) :
    List (String × Doc) :=
  (collection.toList.filter fun entry => matching entry.2).take limit

theorem mem_query {matching : Doc → Bool} {limit : Nat} {entry : String × Doc}
    (hentry : entry ∈ query collection matching limit) :
    collection[entry.1]? = some entry.2 ∧ matching entry.2 = true := by
  rcases List.mem_filter.mp (List.mem_of_mem_take hentry) with ⟨hstored, hmatching⟩
  exact ⟨Std.ExtTreeMap.mem_toList_iff_getElem?_eq_some.mp hstored, hmatching⟩

theorem nodup_query {matching : Doc → Bool} {limit : Nat} :
    ((query collection matching limit).map Prod.fst).Nodup := by
  exact nodup_ids.sublist (((List.take_sublist _ _).trans List.filter_sublist).map Prod.fst)

/-- Where the documents of a kind are fewer than the limit, a document of another kind leaves
one of another kind within the limit. -/
theorem exists_mem_query {matching : Doc → Bool} {limit : Nat} {Kind : String × Doc → Prop}
    {ids : List String} (hfew : ids.length < limit)
    (hids : ∀ entry ∈ query collection matching limit, Kind entry → entry.1 ∈ ids)
    (hstored : collection[id]? = some doc) (hmatching : matching doc = true)
    (hother : ¬ Kind (id, doc)) : ∃ entry ∈ query collection matching limit, ¬ Kind entry := by
  by_contra hall
  have hkind : ∀ entry ∈ query collection matching limit, Kind entry := by
    intro entry hentry
    by_contra hnot
    exact hall ⟨entry, hentry, hnot⟩
  have hsubset : (query collection matching limit).map Prod.fst ⊆ ids := by
    intro key hkey
    rcases List.mem_map.mp hkey with ⟨entry, hentry, rfl⟩
    exact hids entry hentry (hkind entry hentry)
  have hlength := nodup_query.length_le_of_subset hsubset
  rw [List.length_map] at hlength
  have hwhole : query collection matching limit =
      collection.toList.filter fun entry => matching entry.2 := by
    rw [query, List.length_take] at hlength
    rw [query, List.take_of_length_le]
    omega
  refine hother (hkind (id, doc) ?_)
  rw [hwhole, List.mem_filter]
  exact ⟨Std.ExtTreeMap.mem_toList_iff_getElem?_eq_some.mpr hstored, hmatching⟩

/-- Within an ordered list, an element is among the first when few elements are before it. -/
theorem mem_take_iff_of_pairwise {before : Doc → Doc → Bool} {docs : List Doc} {limit : Nat}
    (hordered : docs.Pairwise fun left right => before left right = true)
    (hasymm : ∀ left right, before left right = true → before right left = false)
    (hmem : doc ∈ docs) :
    doc ∈ docs.take limit ↔ (docs.filter fun other => before other doc).length < limit := by
  induction docs generalizing limit with
  | nil => cases hmem
  | cons head docs ih =>
      rcases List.pairwise_cons.mp hordered with ⟨hhead, hrest⟩
      by_cases hself : doc = head
      · subst hself
        have hirrefl : before doc doc = false := by
          by_contra hbefore
          rw [Bool.not_eq_false] at hbefore
          exact absurd (hasymm doc doc hbefore) (by rw [hbefore]; nofun)
        have hnone : (doc :: docs).filter (fun other => before other doc) = [] := by
          refine List.filter_eq_nil_iff.mpr ?_
          intro other hother
          rcases List.mem_cons.mp hother with rfl | hlater
          · simp [hirrefl]
          · simp [hasymm doc other (hhead other hlater)]
        rw [hnone]
        cases limit with
        | zero => simp
        | succ limit => simp
      · have hlater : doc ∈ docs := (List.mem_cons.mp hmem).resolve_left hself
        have hbefore : before head doc = true := hhead doc hlater
        have hcons : (head :: docs).filter (fun other => before other doc) =
            head :: docs.filter fun other => before other doc :=
          List.filter_cons_of_pos hbefore
        rw [hcons, List.length_cons]
        cases limit with
        | zero => simp
        | succ limit =>
            rw [List.take_succ_cons, List.mem_cons, Nat.add_lt_add_iff_right]
            exact ⟨fun hor => (ih hrest hlater).mp (hor.resolve_left hself),
              fun hfew => .inr ((ih hrest hlater).mpr hfew)⟩

/-- The number of matching documents before an id. -/
def ahead (collection : Collection Doc) (matching : Doc → Bool) (id : String) : Nat :=
  ((collection.toList.filter fun entry => matching entry.2).filter fun entry =>
    (byId entry.1 id).isLT).length

/-- A query returns a matching document exactly when fewer than its limit are ahead. -/
theorem mem_query_iff {matching : Doc → Bool} {limit : Nat} (hstored : collection[id]? = some doc)
    (hmatching : matching doc = true) :
    (id, doc) ∈ query collection matching limit ↔ ahead collection matching id < limit := by
  have hordered : (collection.toList.filter fun entry => matching entry.2).Pairwise
      fun left right => (byId left.1 right.1).isLT = true := by
    refine List.Pairwise.filter _ (Std.ExtTreeMap.ordered_keys_toList.imp ?_)
    intro left right hless
    rw [hless]
    rfl
  have hasymm : ∀ left right : String × Doc, (byId left.1 right.1).isLT = true →
      (byId right.1 left.1).isLT = false := by
    intro left right hless
    rw [Ordering.isLT_iff_eq_lt] at hless
    rw [@Std.OrientedCmp.eq_swap _ byId _ right.1 left.1, hless]
    rfl
  have hmem : (id, doc) ∈ collection.toList.filter fun entry => matching entry.2 :=
    List.mem_filter.mpr
      ⟨Std.ExtTreeMap.mem_toList_iff_getElem?_eq_some.mpr hstored, hmatching⟩
  exact mem_take_iff_of_pairwise hordered hasymm hmem

end TsnProtocol.Lib.Documents
