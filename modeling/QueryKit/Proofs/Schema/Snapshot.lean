import Mathlib
import QueryKit.Proofs.Json.Reading
import QueryKit.Proofs.Schema.Coherence
import QueryKit.Proofs.Timestamp.Reading

set_option autoImplicit false

/-! # Snapshots are read back

The text of a snapshot is read as that snapshot (`SchemaSnapshot.ofText?_toText`), whatever its
tables are called and whatever they contain. -/

namespace QueryKit

/-! ## Records -/

namespace Json

/-- Records that are read back one by one are read back as a list. -/
theorem records?_map {α : Type} {read : Written → Option α} {write : α → Json}
    (h : ∀ a, read (write a).asWritten = some a) (as : List α) :
    (Written.array (asWrittenItems (as.map write))).records? read = some as := by
  rw [asWrittenItems_eq_map, List.map_map]
  show (as.map (asWritten ∘ write)).mapM read = some as
  induction as with
  | nil => rfl
  | cons a rest ih =>
    rw [List.map_cons, List.mapM_cons, ih, Function.comp_apply, h a]
    rfl

end Json

open Json

theorem isWide_int32 (n : Int32) : IsWide n.toInt := by
  have hlow := n.minValue_le_toInt
  have hhigh := n.toInt_le
  have hsmall : Int64.minValue.toInt ≤ Int32.minValue.toInt := by decide
  have hlarge : Int32.maxValue.toInt < UInt64.size := by decide
  exact ⟨by omega, by omega⟩

theorem isWide_uint32 (n : UInt32) : IsWide n.toNat := by
  have hhigh := n.toNat_lt
  have hsmall : Int64.minValue.toInt ≤ 0 := by decide
  have hlarge : 2 ^ 32 < UInt64.size := by decide
  exact ⟨by omega, by omega⟩

theorem Column.isWhole_toJson (c : Column) : c.toJson.IsWhole := by
  refine ⟨trivial, trivial, trivial, ?_, isWide_int32 c.ordinal, trivial⟩
  cases c.defaultExpr with
  | none => trivial
  | some text => trivial

theorem Table.isWhole_toJson (t : Table) : t.toJson.IsWhole := by
  refine ⟨trivial, areWhole_iff.2 ?_, trivial⟩
  intro item hitem
  obtain ⟨c, -, rfl⟩ := List.mem_map.1 hitem
  exact c.isWhole_toJson

theorem Column.ofWritten?_toJson (c : Column) : Column.ofWritten? c.toJson.asWritten = some c := by
  have hfields : c.toJson.asWritten.recordFields? Column.fieldNames
      = some [some (.string (some c.name)), some (.string (some c.dataType)),
          some (.bool c.notNull), some (encode c.defaultExpr : Json).asWritten, some (encode c.ordinal : Json).asWritten] := by
    simp [Column.toJson, asWritten, asWrittenFields, Written.recordFields?, Column.fieldNames]
  have hdefault : (encode c.defaultExpr : Json).asWritten.read? = some c.defaultExpr := by
    cases c.defaultExpr <;> rfl
  have hordinal : (encode c.ordinal : Json).asWritten.read? = some c.ordinal := by
    show (if Int32.minValue.toInt ≤ c.ordinal.toInt && c.ordinal.toInt ≤ Int32.maxValue.toInt
      then some (Int32.ofInt c.ordinal.toInt) else none) = _
    rw [if_pos (by simpa using ⟨c.ordinal.minValue_le_toInt, c.ordinal.toInt_le⟩),
      Int32.ofInt_toInt]
  unfold Column.ofWritten?
  rw [hfields]
  simp only [Option.bind_eq_bind, Option.bind_some, Option.getD_some, hdefault, hordinal]
  rfl

theorem Table.ofWritten?_toJson (t : Table) : Table.ofWritten? t.toJson.asWritten = some t := by
  have hfields : t.toJson.asWritten.recordFields? Table.fieldNames
      = some [some (.string (some t.name)),
          some (.array (asWrittenItems (t.columns.map Column.toJson)))] := by
    simp [Table.toJson, asWritten, asWrittenFields, Written.recordFields?, Table.fieldNames]
  unfold Table.ofWritten?
  rw [hfields]
  simp only [Option.bind_eq_bind, Option.bind_some, records?_map Column.ofWritten?_toJson]
  rfl

/-- **The text of a snapshot is read as that snapshot.** -/
theorem SchemaSnapshot.ofText?_toText {s : SchemaSnapshot} (h : s.retrievedAt.IsInstant) :
    SchemaSnapshot.ofText? s.toText = some s := by
  have hwritten : written? s.toText = some (Json.object
      [("version", encode s.version), ("retrieved_at", .string s.retrievedAt.toZuluText),
        ("tables", .array (s.tables.map Table.toJson))]).asWritten := by
    refine written?_of_reads
      (reads_pretty 0 _ ⟨isWide_uint32 s.version, trivial, areWhole_iff.2 ?_, trivial⟩)
    intro item hitem
    obtain ⟨t, -, rfl⟩ := List.mem_map.1 hitem
    exact t.isWhole_toJson
  have hfields : (Json.object
      [("version", encode s.version), ("retrieved_at", .string s.retrievedAt.toZuluText),
        ("tables", .array (s.tables.map Table.toJson))]).asWritten.recordFields? fieldNames
      = some [some (encode s.version : Json).asWritten,
          some (.string (some s.retrievedAt.toZuluText)),
          some (.array (asWrittenItems (s.tables.map Table.toJson)))] := by
    simp [asWritten, asWrittenFields, Written.recordFields?, fieldNames]
  have hversion : (encode s.version : Json).asWritten.read? = some s.version := by
    show ((if 0 ≤ (s.version.toNat : Int) then some (s.version.toNat : Int).toNat else none).bind
      fun n => if n < UInt32.size then some (UInt32.ofNat n) else none) = _
    rw [if_pos (Int.natCast_nonneg _), Option.bind_some, Int.toNat_natCast,
      if_pos s.version.toNat_lt, UInt32.ofNat_toNat]
  have htime : (Written.string (some s.retrievedAt.toZuluText)).read?
      = some s.retrievedAt.toZuluText := rfl
  unfold ofText?
  rw [hwritten]
  simp only [Option.bind_eq_bind, Option.bind_some, hfields, htime, hversion,
    Timestamp.ofLenientText?_toZuluText h, records?_map Table.ofWritten?_toJson]
  rfl

/-- A snapshot of the current version is loaded from the file that it was written to. -/
theorem SchemaSnapshot.load_toText {s : SchemaSnapshot} (h : s.retrievedAt.IsInstant)
    (hversion : s.version = currentVersion) : load (some s.toText) = .ok (some s) := by
  unfold load
  simp only [ofText?_toText h, if_pos hversion]

end QueryKit
