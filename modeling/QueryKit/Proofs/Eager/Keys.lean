import QueryKit.Proofs.Eager.Grouping

set_option autoImplicit false

/-! # Rows under their keys

What is handed out to a record are the rows under its key. They are the same whether all rows are at
hand or only those of some records, as long as the record is one of them: restricting rows to keys
leaves what is under each of these keys as it is. -/

namespace QueryKit

/-! ## Names that occur -/

namespace Text

theorem mem_insertName {name n : String} {names : List String} :
    n ∈ insertName name names ↔ n = name ∨ n ∈ names := by
  induction names with
  | nil => simp [insertName]
  | cons first rest ih =>
      rw [insertName]
      split
      · next h => simp [h]
      · split
        · simp
        · rw [List.mem_cons, ih, List.mem_cons, or_left_comm]

/-- Sorting names neither adds nor loses any. -/
theorem mem_sortedNames {name : String} {names : List String} :
    name ∈ sortedNames names ↔ name ∈ names := by
  have hfold : ∀ acc : List String,
      name ∈ names.foldl (fun acc name => insertName name acc) acc ↔ name ∈ acc ∨ name ∈ names := by
    induction names with
    | nil => simp
    | cons first rest ih =>
        intro acc
        rw [List.foldl_cons, ih, mem_insertName, List.mem_cons, or_assoc, or_left_comm]
  rw [sortedNames, hfold]
  simp

theorem pairwise_insertName {name : String} {names : List String} (h : names.Pairwise (· < ·)) :
    (insertName name names).Pairwise (· < ·) := by
  induction names with
  | nil => exact List.pairwise_singleton _ _
  | cons first rest ih =>
      obtain ⟨hfirst, hrest⟩ := List.pairwise_cons.1 h
      rw [insertName]
      split
      · exact h
      · next hne =>
        split
        · next hlt =>
          refine List.pairwise_cons.2 ⟨fun n hn => ?_, h⟩
          rcases List.mem_cons.1 hn with rfl | hn
          · exact hlt
          · exact hlt.trans (hfirst n hn)
        · next hnot =>
          refine List.pairwise_cons.2 ⟨fun n hn => ?_, ih hrest⟩
          rcases mem_insertName.1 hn with rfl | hn
          · exact lt_of_le_of_ne (not_lt.1 hnot) (Ne.symm hne)
          · exact hfirst n hn

/-- Sorted names are distinct. -/
theorem nodup_sortedNames (names : List String) : (sortedNames names).Nodup := by
  have hfold : ∀ acc : List String, acc.Pairwise (· < ·) →
      (names.foldl (fun acc name => insertName name acc) acc).Pairwise (· < ·) := by
    induction names with
    | nil => exact fun _ h => h
    | cons first rest ih => exact fun _ h => ih _ (pairwise_insertName h)
  exact (hfold [] .nil).imp fun hlt => hlt.ne

/-- Sorting names leaves as many as there are distinct ones. -/
theorem length_sortedNames (names : List String) :
    (sortedNames names).length = names.dedup.length := by
  refine List.Perm.length_eq ?_
  rw [List.perm_ext_iff_of_nodup (nodup_sortedNames names) names.nodup_dedup]
  intro name
  rw [mem_sortedNames, List.mem_dedup]

end Text

/-! ## Rows of some ids -/

/-- The value in a column has the key of one of the ids. -/
def Row.isAmong (column : String) (ids : List Value) (row : Row) : Bool :=
  match (row.get? column).bind Value.key? with
  | some k => ids.any (·.hasKey k)
  | none => false

namespace Relation

/-! ## Ids and their keys -/

theorem key?_canonical (v : Value) : v.canonical.key? = v.key? := by
  rw [Value.canonical]
  split
  · next n h => rw [h, Value.key?]
  · rfl

theorem hasKey_of_key? {v : Value} {k : Key} (h : v.key? = some k) : v.hasKey k = true := by
  rw [Value.hasKey, h, beq_self_eq_true]

variable {α β : Type}

theorem mem_of_mem_firstByKey {entry : Key × α} {entries : List (Key × α)}
    (h : entry ∈ firstByKey entries) : entry ∈ entries := by
  induction entries with
  | nil => exact h
  | cons first rest ih =>
      rw [firstByKey, List.mem_cons] at h
      rcases h with rfl | h
      · exact List.mem_cons_self ..
      · exact List.mem_cons_of_mem _ (ih (List.mem_filter.1 h).1)

/-- No key is lost when the first entry of every key is taken. -/
theorem exists_mem_firstByKey {k : Key} {a : α} {entries : List (Key × α)}
    (h : (k, a) ∈ entries) : ∃ b, (k, b) ∈ firstByKey entries := by
  induction entries with
  | nil => cases h
  | cons first rest ih =>
      obtain ⟨k', a'⟩ := first
      rw [firstByKey]
      by_cases heq : k = k'
      · subst heq
        exact ⟨a', List.mem_cons_self ..⟩
      · rcases List.mem_cons.1 h with h | h
        · exact absurd (congrArg Prod.fst h) heq
        · obtain ⟨b, hb⟩ := ih h
          refine ⟨b, List.mem_cons_of_mem _ (List.mem_filter.2 ⟨hb, ?_⟩)⟩
          simpa using heq

/-- The first value of a key has the key, if all values stand under their own. -/
theorem exists_key?_firstByKey {entries : List (Key × Value)}
    (hkeys : ∀ entry ∈ entries, entry.2.key? = some entry.1) {k : Key} {v : Value}
    (h : (k, v) ∈ entries) : ∃ w, (k, w) ∈ firstByKey entries ∧ w.key? = some k := by
  obtain ⟨w, hw⟩ := exists_mem_firstByKey h
  exact ⟨w, hw, hkeys _ (mem_of_mem_firstByKey hw)⟩

theorem key?_of_mem_keyed {values : List Value} {entry : Key × Value} (h : entry ∈ keyed values) :
    entry.2.key? = some entry.1 := by
  obtain ⟨v, -, hv⟩ := List.mem_filterMap.1 h
  obtain ⟨k, hk, rfl⟩ := Option.map_eq_some_iff.1 hv
  exact hk

theorem any_hasKey_distinctKeys {values : List Value} {v : Value} {k : Key} (hv : v ∈ values)
    (hk : v.key? = some k) : (distinctKeys values).any (·.hasKey k) = true := by
  have hkeyed : (k, v) ∈ keyed values := List.mem_filterMap.2 ⟨v, hv, by rw [hk]; rfl⟩
  obtain ⟨w, hw, hkey⟩ := exists_key?_firstByKey (fun _ => key?_of_mem_keyed) hkeyed
  rw [distinctKeys_eq]
  refine List.any_eq_true.2 ⟨w.canonical, List.mem_map_of_mem hw, ?_⟩
  exact hasKey_of_key? ((key?_canonical w).trans hkey)

/-- The ids of records have the keys of the records. -/
theorem any_hasKey_parentKeys {column : String} {parents : List Record} {k : Key} :
    (parentKeys column parents).any (·.hasKey k) = true
      ↔ ∃ p ∈ parents, p.keyOf? column = some k := by
  constructor
  · intro h
    obtain ⟨id, hid, hk⟩ := List.any_eq_true.1 h
    rw [parentKeys, distinctKeys_eq] at hid
    obtain ⟨entry, hentry, rfl⟩ := List.mem_map.1 hid
    obtain ⟨v, hv, hkeyed⟩ := List.mem_filterMap.1 (mem_of_mem_firstByKey hentry)
    obtain ⟨p, hp, hraw⟩ := List.mem_filterMap.1 hv
    obtain ⟨k', hk', rfl⟩ := Option.map_eq_some_iff.1 hkeyed
    rw [Value.hasKey, key?_canonical, beq_iff_eq] at hk
    exact ⟨p, hp, by rw [Record.keyOf?, hraw, Option.bind_some, hk]⟩
  · rintro ⟨p, hp, hk⟩
    rw [Record.keyOf?, Option.bind_eq_some_iff] at hk
    obtain ⟨v, hv, hkey⟩ := hk
    exact any_hasKey_distinctKeys (List.mem_filterMap.2 ⟨p, hp, hv⟩) hkey

/-- There is nothing to bind exactly if no record has a key. -/
theorem parentKeys_isEmpty {column : String} {parents : List Record} :
    (parentKeys column parents).isEmpty = true ↔ ∀ p ∈ parents, p.keyOf? column = none := by
  constructor
  · intro h p hp
    cases hk : p.keyOf? column with
    | none => rfl
    | some k =>
        have hany := any_hasKey_parentKeys.2 ⟨p, hp, hk⟩
        rw [List.isEmpty_iff.1 h, List.any_nil] at hany
        exact absurd hany Bool.false_ne_true
  · intro h
    have hkeyed : keyed (parents.filterMap (·.raw? column)) = [] := by
      rw [keyed, List.filterMap_eq_nil_iff]
      intro v hv
      obtain ⟨p, hp, hraw⟩ := List.mem_filterMap.1 hv
      have hk := h p hp
      rw [Record.keyOf?, hraw, Option.bind_some] at hk
      rw [hk, Option.map_none]
    rw [parentKeys, distinctKeys_eq, hkeyed]
    rfl

theorem any_hasKey_parentKeys_mono {column : String} {parents batch : List Record} {k : Key}
    (hbatch : ∀ p ∈ batch, p ∈ parents) (h : (parentKeys column batch).any (·.hasKey k) = true) :
    (parentKeys column parents).any (·.hasKey k) = true := by
  obtain ⟨p, hp, hk⟩ := any_hasKey_parentKeys.1 h
  exact any_hasKey_parentKeys.2 ⟨p, hbatch p hp, hk⟩

/-- If there is nothing to bind for records, there is nothing to bind for some of them. -/
theorem parentKeys_isEmpty_of_subset {column : String} {parents batch : List Record}
    (hbatch : ∀ p ∈ batch, p ∈ parents) (h : (parentKeys column parents).isEmpty = true) :
    (parentKeys column batch).isEmpty = true :=
  parentKeys_isEmpty.2 fun p hp => parentKeys_isEmpty.1 h p (hbatch p hp)

/-! ## Restricting to keys -/

theorem withKey_filter {k : Key} {p : Key → Bool} (hk : p k = true) (entries : List (Key × α)) :
    withKey k (entries.filter fun entry => p entry.1) = withKey k entries := by
  rw [withKey, withKey, List.filter_filter]
  congr 1
  apply List.filter_congr
  intro entry _
  by_cases h : entry.1 = k
  · rw [h, hk, Bool.and_true]
  · rw [beq_false_of_ne h, Bool.false_and]

theorem withKey_map (f : α → β) (k : Key) (entries : List (Key × α)) :
    withKey k (entries.map fun (k, a) => (k, f a)) = (withKey k entries).map f := by
  rw [withKey, withKey, List.filter_map, List.map_map, List.map_map]
  rfl

/-- Reading rows for some ids reads what is under their keys. -/
theorem rowsByColumn_filter (column : String) (ids : List Value) (rows : List Row) :
    rowsByColumn column (rows.filter (Row.isAmong column ids))
      = (rowsByColumn column rows).filter fun entry => ids.any (·.hasKey entry.1) := by
  rw [rowsByColumn, rowsByColumn, List.filterMap_filter, List.filter_filterMap]
  congr 1
  funext row
  rw [Row.isAmong]
  cases (row.get? column).bind Value.key? with
  | none => rfl
  | some k => rfl

/-- **Rows that are read for some ids** are all rows under each of their keys. -/
theorem withKey_read {k : Key} {ids : List Value} (hk : ids.any (·.hasKey k) = true) (column : String)
    (rows : List Row) :
    withKey k (rowsByColumn column (rows.filter (Row.isAmong column ids)))
      = withKey k (rowsByColumn column rows) := by
  rw [rowsByColumn_filter]
  exact withKey_filter (p := fun k => ids.any (·.hasKey k)) hk _

/-! ## Owners of several types -/

theorem lookup_tagged (tag : String) (k : Key) (f : α → β) (entries : List (Key × α)) :
    (entries.map fun (k, a) => ((tag, k), f a)).lookup (tag, k)
      = ((withKey k entries).map f).head? := by
  induction entries with
  | nil => rfl
  | cons entry rest ih =>
      obtain ⟨k', a⟩ := entry
      rw [List.map_cons, List.lookup_cons, withKey, List.filter_cons]
      by_cases h : k' = k
      · subst h
        simp
      · rw [if_neg (by simpa using h), beq_false_of_ne (by simpa using Ne.symm h)]
        exact ih

theorem lookup_eq_none_of_tags {tag : String} {k : Key} {entries : List ((String × Key) × α)}
    (h : ∀ entry ∈ entries, entry.1.1 ≠ tag) : entries.lookup (tag, k) = none := by
  rw [List.lookup_eq_none_iff]
  intro entry hentry
  rw [bne_iff_ne]
  exact fun heq => h entry hentry (congrArg Prod.fst heq).symm

/-- What is looked up under a type is found among the owners of that type. -/
theorem lookup_flatten {tags : List String} {owners : String → List ((String × Key) × α)}
    (howners : ∀ tag ∈ tags, ∀ entry ∈ owners tag, entry.1.1 = tag) {tag : String} (h : tag ∈ tags)
    (k : Key) : (tags.map owners).flatten.lookup (tag, k) = (owners tag).lookup (tag, k) := by
  induction tags with
  | nil => cases h
  | cons first rest ih =>
      have hrest := fun tag htag => howners tag (List.mem_cons_of_mem _ htag)
      rw [List.map_cons, List.flatten_cons, List.lookup_append]
      by_cases hmem : tag ∈ rest
      · rw [ih hrest hmem]
        by_cases heq : first = tag
        · rw [heq, Option.or_self]
        · rw [lookup_eq_none_of_tags fun entry hentry =>
            howners first (List.mem_cons_self ..) entry hentry ▸ heq, Option.none_or]
      · -- the type is the first one, and none of the others
        have heq : tag = first := (List.mem_cons.1 h).resolve_right hmem
        have hnone : (rest.map owners).flatten.lookup (tag, k) = none := by
          apply lookup_eq_none_of_tags
          intro entry hentry
          obtain ⟨_, hmap, hentry⟩ := List.mem_flatten.1 hentry
          obtain ⟨other, hother, rfl⟩ := List.mem_map.1 hmap
          rw [hrest other hother entry hentry]
          exact fun h => hmem (h ▸ hother)
        rw [← heq, hnone, Option.or_none]

/-! ## Links -/

theorem key?_of_mem_pivotLinks {p : Pivot} {rows : List Row} {link : Key × Key × Value}
    (h : link ∈ pivotLinks p rows) : link.2.2.key? = some link.2.1 := by
  obtain ⟨row, -, hrow⟩ := List.mem_filterMap.1 h
  simp only [Option.bind_eq_bind, Option.bind_eq_some_iff, Option.pure_def, Option.some.injEq] at hrow
  obtain ⟨_, _, id, -, k, hk, rfl⟩ := hrow
  exact hk

/-- Reading the pivot rows of some ids reads the links of their keys. -/
theorem pivotLinks_filter (p : Pivot) (ids : List Value) (rows : List Row) :
    pivotLinks p (rows.filter (Row.isAmong p.parentColumn ids))
      = (pivotLinks p rows).filter fun link => ids.any (·.hasKey link.1) := by
  rw [pivotLinks, pivotLinks, List.filterMap_filter, List.filter_filterMap]
  congr 1
  funext row
  rw [Row.isAmong]
  cases (row.get? p.parentColumn).bind Value.key? with
  | none => rfl
  | some k =>
      simp only [Option.bind_eq_bind, Option.bind_some]
      cases row.get? p.relatedColumn with
      | none => simp
      | some id =>
        cases hid : id.key? with
        | none => simp [hid]
        | some related => simp [hid, Option.filter]

/-- The ids of links have the keys of all related records. -/
theorem any_hasKey_linkedIds {p : Pivot} {rows : List Row} {link : Key × Key × Value}
    (h : link ∈ pivotLinks p rows) :
    (linkedIds (pivotLinks p rows)).any (·.hasKey link.2.1) = true := by
  have hkeys : ∀ entry ∈ (pivotLinks p rows).map Prod.snd, entry.2.key? = some entry.1 := by
    intro entry hentry
    obtain ⟨other, hother, rfl⟩ := List.mem_map.1 hentry
    exact key?_of_mem_pivotLinks hother
  obtain ⟨id, hid, hkey⟩ := exists_key?_firstByKey hkeys (List.mem_map_of_mem h)
  exact List.any_eq_true.2 ⟨id, List.mem_map_of_mem hid, hasKey_of_key? hkey⟩

theorem linkedIds_isEmpty {links : List (Key × Key × Value)} :
    (linkedIds links).isEmpty = links.isEmpty := by
  cases links with
  | nil => rfl
  | cons link rest => rfl

theorem linked_cons (links : List (Key × Key × Value)) (related : Key) (record : Record)
    (found : List (Key × Record)) (k : Key) :
    linked links ((related, record) :: found) k
      = (links.filter fun link => link.1 == k && link.2.1 == related).map (fun _ => record)
        ++ linked links found k := rfl

/-- **The related records of a record** depend on the links of its key only, and on the found records
    that these links lead to. -/
theorem linked_filter {k : Key} {p q : Key → Bool} (links : List (Key × Key × Value))
    (found : List (Key × Record)) (hp : p k = true)
    (hq : ∀ link ∈ links, link.1 = k → q link.2.1 = true) :
    linked (links.filter fun link => p link.1) (found.filter fun entry => q entry.1) k
      = linked links found k := by
  induction found with
  | nil => rfl
  | cons entry rest ih =>
      obtain ⟨related, record⟩ := entry
      have hlinks : (links.filter fun link => p link.1).filter
            (fun link => link.1 == k && link.2.1 == related)
          = links.filter fun link => link.1 == k && link.2.1 == related := by
        rw [List.filter_filter]
        apply List.filter_congr
        intro link _
        by_cases h : link.1 = k
        · rw [h, hp, Bool.and_true]
        · rw [beq_false_of_ne h, Bool.false_and, Bool.false_and]
      rw [List.filter_cons, linked_cons]
      split
      · rw [linked_cons, hlinks, ih]
      · next hnot =>
          -- no link of the key leads to a record that is left out
          have hnone : (links.filter fun link => link.1 == k && link.2.1 == related) = [] := by
            rw [List.filter_eq_nil_iff]
            intro link hlink heq
            rw [Bool.and_eq_true, beq_iff_eq, beq_iff_eq] at heq
            exact hnot (heq.2 ▸ hq link hlink heq.1)
          rw [hnone, List.map_nil, List.nil_append, ih]

end Relation

end QueryKit
