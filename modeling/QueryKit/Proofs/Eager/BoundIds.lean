import QueryKit.Parameter
import QueryKit.Proofs.Eager.Keys
import QueryKit.Proofs.Value.Keys

set_option autoImplicit false

/-! # Ids as they are bound

The ids of a batch of records are bound one for every key, in the form of the first value with that
key. For texts this is not always the text itself: one that reads as an integer is bound as the integer,
so its zeros, its plus and its blanks are lost, and one that reads as an identifier stands for all
spellings of it. A text is sent as `Text.boundText`, and texts are bound together exactly if
`Text.SameId` holds of them (`text_ids_bound_by_key`). -/

namespace QueryKit

/-! ## What texts read as -/

namespace Text

/-- The integer that a text reads as, blanks around it aside. -/
def asInteger? (s : String) : Option Int64 :=
  readInt64? (trim s.toList)

/-- The identifier that a text reads as, blanks around it aside, if it does not read as an integer. -/
def asUuid? (s : String) : Option Uuid :=
  match asInteger? s with
  | some _ => none
  | none => Uuid.ofText? (trim s.toList)

/-- The text by which a text is bound: that of the integer that it reads as, or itself. -/
def boundText (s : String) : String :=
  match asInteger? s with
  | some n => toString n.toInt
  | none => s

/-- Two texts that one id stands for: they are equal, or read as the same integer, or as the same
    identifier. -/
inductive SameId (s t : String) : Prop
  | equal (h : s = t)
  | integer {n : Int64} (hs : asInteger? s = some n) (ht : asInteger? t = some n)
  | uuid {u : Uuid} (hs : asUuid? s = some u) (ht : asUuid? t = some u)

/-- The key of a text by what it reads as. -/
inductive HasKey (s : String) : Key → Prop
  | integer {n : Int64} (h : asInteger? s = some n) : HasKey s (.int n)
  | uuid {u : Uuid} (h : asUuid? s = some u) : HasKey s (.text u.toText)
  | plain (hinteger : asInteger? s = none) (huuid : Uuid.ofText? (trim s.toList) = none) :
      HasKey s (.text s)

theorem HasKey.eq {s : String} {k : Key} (h : HasKey s k) : Key.ofText s = k := by
  cases h with
  | integer h => exact Key.ofText_of_readInt64? h
  | uuid h =>
      rw [asUuid?] at h
      split at h
      · cases h
      · next hinteger =>
        rw [asInteger?] at hinteger
        simp only [Key.ofText, hinteger, h]
  | plain hinteger huuid =>
      rw [asInteger?] at hinteger
      simp only [Key.ofText, hinteger, huuid]

theorem hasKey_ofText (s : String) : HasKey s (Key.ofText s) := by
  cases hinteger : asInteger? s with
  | some n =>
      rw [(HasKey.integer hinteger).eq]
      exact .integer hinteger
  | none =>
      cases huuid : Uuid.ofText? (trim s.toList) with
      | some u =>
          have hread : HasKey s (.text u.toText) := .uuid (by simp only [asUuid?, hinteger, huuid])
          rw [hread.eq]
          exact hread
      | none =>
          rw [(HasKey.plain hinteger huuid).eq]
          exact .plain hinteger huuid

/-- The text of an identifier reads as it. -/
theorem ofText?_trim_toText (u : Uuid) : Uuid.ofText? (trim u.toText.toList) = some u := by
  rw [u.solid_toText.trim_eq, u.ofText?_toText]

/-- Texts that have one key by what they read as. -/
theorem HasKey.sameId {s t : String} {k : Key} (hs : HasKey s k) (ht : HasKey t k) : SameId s t := by
  cases hs with
  | integer hs =>
      cases ht with
      | integer ht => exact .integer hs ht
  | @uuid u hs =>
      generalize hk : Key.text u.toText = k at ht
      cases ht with
      | integer => cases hk
      | @uuid v ht =>
          have hread := u.ofText?_toText
          rw [Key.text.inj hk, v.ofText?_toText, Option.some.injEq] at hread
          exact .uuid hs (hread ▸ ht)
      | plain _ huuid =>
          -- the other text would be that of the identifier, and read as it
          rw [← Key.text.inj hk, ofText?_trim_toText] at huuid
          cases huuid
  | plain _ huuid =>
      generalize hk : Key.text s = k at ht
      cases ht with
      | integer => cases hk
      | uuid =>
          rw [Key.text.inj hk, ofText?_trim_toText] at huuid
          cases huuid
      | plain => exact .equal (Key.text.inj hk)

/-- **Texts have one key** exactly if one id stands for both. -/
theorem ofText_eq_iff {s t : String} : Key.ofText s = Key.ofText t ↔ SameId s t := by
  constructor
  · intro h
    exact (hasKey_ofText s).sameId (h ▸ hasKey_ofText t)
  · rintro (rfl | ⟨hs, ht⟩ | ⟨hs, ht⟩)
    · rfl
    · rw [(HasKey.integer hs).eq, (HasKey.integer ht).eq]
    · rw [(HasKey.uuid hs).eq, (HasKey.uuid ht).eq]

end Text

/-! ## What is sent for a text -/

namespace Payload

theorem toList_loop (bytes : ByteArray) (i : Nat) (before : List UInt8) :
    ByteArray.toList.loop bytes i before = before.reverse ++ bytes.data.toList.drop i := by
  fun_induction ByteArray.toList.loop bytes i before with
  | case1 i before hi ih =>
      have hlength : i < bytes.data.toList.length := by simpa using hi
      rw [ih, List.drop_eq_getElem_cons hlength]
      simp [ByteArray.get!, hi]
  | case2 i before hi =>
      have hlength : bytes.data.toList.length ≤ i := by simpa using Nat.le_of_not_lt hi
      rw [List.drop_eq_nil_of_le hlength, List.append_nil]

/-- Different texts are sent as different bytes. -/
theorem utf8_inj {s t : String} : utf8 s = utf8 t ↔ s = t := by
  refine ⟨fun h => ?_, congrArg utf8⟩
  rw [utf8, utf8, ByteArray.toList, ByteArray.toList, toList_loop, toList_loop] at h
  simp only [List.reverse_nil, List.nil_append, List.drop_zero, Array.toList_inj] at h
  rw [← String.toByteArray_inj]
  exact ByteArray.ext h

/-- The types for which texts are sent as they are. -/
inductive IsTextual : ScalarType → Prop
  | text : IsTextual .text
  | varchar : IsTextual .varchar

theorem encode?_text {type : ScalarType} (htype : IsTextual type) (s : String) :
    encode? (.scalar type) (.text s) = some (.bytes (utf8 s)) := by
  cases htype <;> rfl

theorem encode?_int {type : ScalarType} (htype : IsTextual type) (n : Int64) :
    encode? (.scalar type) (.int n) = some (.bytes (utf8 (toString n.toInt))) := by
  cases htype <;> rfl

/-- A text that stands for an id is sent as the text by which it is bound. -/
theorem encode?_canonical_text {type : ScalarType} (htype : IsTextual type) (s : String) :
    encode? (.scalar type) (Value.text s).canonical
      = some (.bytes (utf8 (Text.boundText s))) := by
  rw [Text.boundText]
  have hkey : (Value.text s).key? = some (Key.ofText s) := rfl
  cases hinteger : Text.asInteger? s with
  | some n =>
      rw [(Text.HasKey.integer hinteger).eq] at hkey
      rw [Value.canonical_of_key?_int hkey, encode?_int htype]
  | none =>
      rw [← encode?_text htype s]
      congr 1
      have hread := Text.hasKey_ofText s
      generalize Key.ofText s = k at hkey hread
      cases hread with
      | integer h =>
          rw [hinteger] at h
          cases h
      | uuid => exact Value.canonical_of_key?_text hkey
      | plain => exact Value.canonical_of_key?_text hkey

end Payload

/-! ## The id of a key -/

/-- The ids of a key among those that are bound for values. -/
def boundFor (values : List Value) (k : Key) : List Value :=
  (distinctKeys values).filter (·.hasKey k)

/-- The first entry of a key is the only one that is kept. -/
theorem filter_firstByKey {α : Type} (k : Key) (entries : List (Key × α)) :
    (firstByKey entries).filter (·.1 == k) = (entries.find? (·.1 == k)).toList := by
  induction entries with
  | nil => rfl
  | cons entry rest ih =>
      rw [firstByKey, List.filter_cons, List.find?_cons, List.filter_filter]
      cases hk : entry.1 == k with
      | true =>
          -- no later entry of the key is kept
          have hrest : (firstByKey rest).filter (fun e => e.1 == k && e.1 != entry.1) = [] := by
            refine List.filter_eq_nil_iff.2 fun e _ he => ?_
            rw [Bool.and_eq_true, bne_iff_ne, beq_iff_eq] at he
            exact he.2 (he.1.trans (beq_iff_eq.1 hk).symm)
          rw [if_pos rfl, hrest]
          rfl
      | false =>
          have hrest : (firstByKey rest).filter (fun e => e.1 == k && e.1 != entry.1)
              = (firstByKey rest).filter (·.1 == k) := by
            refine List.filter_congr fun e _ => Bool.and_eq_left_iff_imp.2 fun he => ?_
            refine bne_iff_ne.2 fun heq => ?_
            rw [← heq, he] at hk
            cases hk
          rw [if_neg Bool.false_ne_true, hrest, ih]

theorem hasKey_eq {v : Value} {j : Key} (h : v.key? = some j) (k : Key) :
    v.hasKey k = (j == k) := by
  rw [Value.hasKey, h]
  rfl

theorem find?_keyed (k : Key) (values : List Value) :
    (keyed values).find? (·.1 == k) = (values.find? (·.hasKey k)).map fun v => (k, v) := by
  induction values with
  | nil => rfl
  | cons v rest ih =>
      rw [keyed] at ih ⊢
      rw [List.filterMap_cons, List.find?_cons]
      cases hkey : v.key? with
      | none =>
          rw [Value.hasKey, hkey]
          exact ih
      | some j =>
          rw [hasKey_eq hkey, Option.map_some, List.find?_cons]
          cases hj : j == k with
          | true => rw [beq_iff_eq.1 hj, Option.map_some]
          | false => exact ih

/-- **For every key the first value with it is bound**, in its canonical form, and nothing else. -/
theorem boundFor_eq (values : List Value) (k : Key) :
    boundFor values k = ((values.find? (·.hasKey k)).map Value.canonical).toList := by
  have hkeys : (firstByKey (keyed values)).filter (fun entry => entry.2.canonical.hasKey k)
      = (firstByKey (keyed values)).filter (·.1 == k) := by
    refine List.filter_congr fun entry hentry => ?_
    have hkey := Relation.key?_of_mem_keyed (Relation.mem_of_mem_firstByKey hentry)
    exact hasKey_eq ((Relation.key?_canonical _).trans hkey) k
  rw [boundFor, distinctKeys_eq, List.filter_map]
  show (List.filter (fun entry : Key × Value => entry.2.canonical.hasKey k) _).map _ = _
  rw [hkeys, filter_firstByKey, find?_keyed]
  cases values.find? (·.hasKey k) <;> rfl

/-- A key with values has its own id. -/
theorem eq_of_boundFor_eq {values : List Value} {v : Value} {j k : Key} (hv : v ∈ values)
    (hk : v.key? = some k) (h : boundFor values j = boundFor values k) : j = k := by
  obtain ⟨id, hid, hkey⟩ := List.any_eq_true.1 (Relation.any_hasKey_distinctKeys hv hk)
  have hj : id ∈ boundFor values j := by
    rw [h]
    exact List.mem_filter.2 ⟨hid, hkey⟩
  have hkeys := (List.mem_filter.1 hj).2
  rw [Value.hasKey, beq_iff_eq] at hkey hkeys
  exact Option.some.inj (hkeys.symm.trans hkey)

/-- The first value with the key of a text. -/
theorem exists_first_of_text {values : List Value} {s : String} (h : .text s ∈ values) :
    ∃ first, values.find? (·.hasKey (Key.ofText s)) = some first
      ∧ first.key? = some (Key.ofText s)
      ∧ boundFor values (Key.ofText s) = [first.canonical] := by
  have hsome : (values.find? (·.hasKey (Key.ofText s))).isSome := by
    rw [List.find?_isSome]
    exact ⟨_, h, Relation.hasKey_of_key? rfl⟩
  obtain ⟨first, hfirst⟩ := Option.isSome_iff_exists.1 hsome
  refine ⟨first, hfirst, ?_, ?_⟩
  · have hkey := List.find?_some hfirst
    rwa [Value.hasKey, beq_iff_eq] at hkey
  · rw [boundFor_eq, hfirst]
    rfl

open Payload in
/-- **A text among the values is bound by the first value with its key.** If that is a text, it is sent
    as its `Text.boundText`, so as the text asked for exactly if it is that. A text that reads as an
    integer is bound as the integer, whatever value is the first with it. Two texts are bound together
    exactly if one id stands for both. -/
theorem text_ids_bound_by_key {values : List Value} {s : String} (h : .text s ∈ values)
    {type : ScalarType} (htype : IsTextual type) :
    (∃ first, values.find? (·.hasKey (Key.ofText s)) = some first
        ∧ boundFor values (Key.ofText s) = [first.canonical]
        ∧ ∀ t, first = .text t →
          Text.SameId s t
            ∧ encode? (.scalar type) first.canonical = some (.bytes (utf8 (Text.boundText t)))
            ∧ (encode? (.scalar type) first.canonical = some (.bytes (utf8 s))
                ↔ Text.boundText t = s))
      ∧ (∀ n, Text.asInteger? s = some n →
          boundFor values (Key.ofText s) = [.int n]
            ∧ encode? (.scalar type) (.int n) = some (.bytes (utf8 (toString n.toInt))))
      ∧ ∀ t, .text t ∈ values →
          (boundFor values (Key.ofText t) = boundFor values (Key.ofText s) ↔ Text.SameId s t) := by
  obtain ⟨first, hfirst, hkey, hbound⟩ := exists_first_of_text h
  refine ⟨⟨first, hfirst, hbound, ?_⟩, fun n hn => ⟨?_, encode?_int htype n⟩, fun t ht => ?_⟩
  · rintro t rfl
    have hsent := encode?_canonical_text htype t
    refine ⟨Text.ofText_eq_iff.1 (Option.some.inj hkey).symm, hsent, ?_⟩
    rw [hsent, Option.some.injEq, Payload.bytes.injEq, utf8_inj]
  · rw [(Text.HasKey.integer hn).eq] at hkey
    rw [hbound, Value.canonical_of_key?_int hkey]
  · rw [← Text.ofText_eq_iff]
    refine ⟨fun heq => (eq_of_boundFor_eq h rfl heq).symm, fun heq => ?_⟩
    rw [heq]

/-- Two spellings of seven are bound together, as the integer. -/
theorem text_ids_bound_by_key_seven :
    let values := [Value.text "007", .text "x", .text "7"]
    Value.text "7" ∈ values ∧ Payload.IsTextual .varchar
      ∧ boundFor values (Key.ofText "7") = [.int 7]
      ∧ Payload.encode? (.scalar .varchar) (.int 7) = some (.bytes (Payload.utf8 "7"))
      ∧ boundFor values (Key.ofText "007") = boundFor values (Key.ofText "7") := by
  intro values
  have hmem : Value.text "7" ∈ values := .tail _ (.tail _ (.head _))
  obtain ⟨-, hinteger, htogether⟩ := text_ids_bound_by_key hmem Payload.IsTextual.varchar
  have hseven : Text.asInteger? "7" = some 7 := by decide +kernel
  have hzeros : Text.asInteger? "007" = some 7 := by decide +kernel
  obtain ⟨hbound, hsent⟩ := hinteger 7 hseven
  exact ⟨hmem, .varchar, hbound, hsent,
    (htogether "007" (.head _)).2 (.integer hseven hzeros)⟩

/-- Ids are not always bound by their bytes, and different ids are not always bound apart. -/
theorem text_ids_not_bound_by_bytes :
    (¬∀ (values : List Value) (s : String), .text s ∈ values →
        ∀ id ∈ boundFor values (Key.ofText s),
          Payload.encode? (.scalar .text) id = some (.bytes (Payload.utf8 s)))
      ∧ ¬∀ (values : List Value) (s t : String), .text s ∈ values → .text t ∈ values →
          boundFor values (Key.ofText s) = boundFor values (Key.ofText t) → s = t := by
  have hkey : Key.ofText "007" = .int 7 := by decide +kernel
  have hkey' : Key.ofText "7" = .int 7 := by decide +kernel
  constructor
  · intro h
    have hsent := h [.text "007"] "007" (.head _) (.int 7) (by
      rw [boundFor_eq, List.find?_cons, hasKey_eq rfl, hkey]
      exact .head _)
    rw [Payload.encode?_int .text, Option.some.injEq, Payload.bytes.injEq, Payload.utf8_inj] at hsent
    exact absurd hsent (by decide +kernel)
  · intro h
    have heq := h [.text "007", .text "7"] "007" "7" (.head _) (.tail _ (.head _)) (by
      rw [hkey, hkey'])
    exact absurd heq (by decide)

end QueryKit
