import Rollup.Proofs.Histogram.Grammar
import Rollup.Proofs.Histogram.Lookup
import Rollup.Proofs.Query.Decoding
import Mathlib.Data.List.Forall2
import Mathlib.Data.List.Sort

/-!
What rows of JSON values say. The kind of a metric calls for some logical columns; each of them has
to be stored somewhere, to be there and to hold a value of the right sort. Main statement:
`rows_are_read`, a row is decoded exactly if all of that holds, as the values of these columns, and
the other columns make no difference.
-/
namespace Rollup

namespace Json

/-- The integer that a value is read as. Null counts as zero, a binary number has to be whole, and a
text has to be a numeral between blanks. -/
inductive DenotesLong : Json → Int64 → Prop
  | null : DenotesLong .null 0
  | integer {value : Int64} : DenotesLong (.int value.toInt) value
  | whole {number : Binary64} {value : Int64} : number.toInt? = some value.toInt →
    value.toInt.natAbs < 2 ^ 63 → DenotesLong (.number (.float number)) value
  | numeral {text : String} {value : Int64} : Histogram.CountPiece text.toList value →
    DenotesLong (.string text) value

/-- The histogram that a value is read as. Null counts as an empty one, and what is not a text
stands for its compact text. -/
inductive DenotesHistogram (json : Json) : Histogram → Prop
  | null : json.toText = none → DenotesHistogram json .empty
  | spelled {text : String} {histogram : Histogram} : json.toText = some text →
    Histogram.Spells text.toList histogram → DenotesHistogram json histogram

section Long

variable {column : String} {found : Option Int64}

theorem toLong_integer_eq_ok_iff {n : Int} :
    (Json.number (.integer n)).toLong column = .ok found ↔
      ∃ value : Int64, value.toInt = n ∧ some value = found := by
  simp only [← Amount.ofInt?_eq_some_iff, toLong]
  cases Amount.ofInt? n <;> simp

theorem toLong_float_eq_ok_iff {number : Binary64} :
    (Json.number (.float number)).toLong column = .ok found ↔
      ∃ value : Int64, number.toInt? = some value.toInt ∧ value.toInt.natAbs < 2 ^ 63 ∧
        some value = found := by
  rw [toLong]
  cases whole : number.toInt? with
  | none => simp
  | some n =>
    have limit : Nat.pow 2 63 = 2 ^ 63 := rfl
    simp only [limit]
    split
    · next small =>
      have same : (Int64.ofInt n).toInt = n := by
        apply Int64.toInt_ofInt_of_le <;> omega
      rw [Except.ok.injEq]
      constructor
      · rintro rfl
        exact ⟨_, by rw [same], by rwa [same], rfl⟩
      · rintro ⟨value, eq, -, rfl⟩
        rw [Option.some.inj eq, Int64.ofInt_toInt]
    · next great =>
      refine iff_of_false (by simp) ?_
      rintro ⟨value, eq, small, -⟩
      exact great (Option.some.inj eq ▸ small)

theorem toLong_string_eq_ok_iff {text : String} :
    (Json.string text).toLong column = .ok found ↔
      ∃ value, Histogram.CountPiece text.toList value ∧ some value = found := by
  simp only [← Histogram.amount?_eq_some_iff, toLong]
  cases (Numeral.signed? (Text.trim text.toList)).bind Amount.ofInt? <;> simp

end Long

theorem map_toLong_eq_ok_iff {column : String} {json : Json} {value : Int64} :
    (json.toLong column).map (·.getD 0) = .ok value ↔ json.DenotesLong value := by
  rw [Except.map_eq_ok_iff]
  constructor
  · rintro ⟨found, read, rfl⟩
    cases json with
    | null =>
      cases read
      exact .null
    | bool _ | array _ | object _ => cases read
    | string text =>
      obtain ⟨value, piece, rfl⟩ := toLong_string_eq_ok_iff.1 read
      exact .numeral piece
    | number number =>
      cases number with
      | integer n =>
        obtain ⟨value, rfl, rfl⟩ := toLong_integer_eq_ok_iff.1 read
        exact .integer
      | float number =>
        obtain ⟨value, whole, small, rfl⟩ := toLong_float_eq_ok_iff.1 read
        exact .whole whole small
  · intro h
    cases h with
    | null => exact ⟨none, rfl, rfl⟩
    | integer => exact ⟨_, toLong_integer_eq_ok_iff.2 ⟨value, rfl, rfl⟩, rfl⟩
    | whole whole small =>
      exact ⟨_, toLong_float_eq_ok_iff.2 ⟨value, whole, small, rfl⟩, rfl⟩
    | numeral piece => exact ⟨_, toLong_string_eq_ok_iff.2 ⟨value, piece, rfl⟩, rfl⟩

theorem decode_toText_eq_ok_iff {json : Json} {histogram : Histogram} :
    Histogram.decode (json.toText.getD "") = .ok histogram ↔ json.DenotesHistogram histogram := by
  cases spelled : json.toText with
  | none =>
    have empty : Histogram.decode "" = .ok .empty := rfl
    rw [Option.getD_none, empty, Except.ok.injEq]
    constructor
    · rintro rfl
      exact .null spelled
    · rintro (absent | ⟨present, -⟩)
      · rfl
      · cases spelled.symm.trans present
  | some text =>
    rw [Option.getD_some, Histogram.decode, Histogram.decodeChars_eq_ok_iff]
    constructor
    · exact .spelled spelled
    · rintro (absent | ⟨present, spells⟩)
      · cases spelled.symm.trans absent
      · cases spelled.symm.trans present
        exact spells

end Json

theorem Kind.specializes_singleValue_iff {kind : Kind} : kind.Specializes .singleValue ↔
    kind = .singleValue ∨ kind = .cpm ∨ kind = .sum ∨ kind = .max := by
  constructor
  · intro specializes
    cases specializes with
    | refl => exact .inl rfl
    | step above _ => cases kind <;> first | contradiction | simp
  · rintro (rfl | rfl | rfl | rfl)
    · exact .refl _
    all_goals exact .step rfl (.refl _)

theorem Row.field_eq_ok_iff {field? : String → Option Json} {column : String} {json : Json} :
    Row.field field? column = .ok json ↔ field? column = some json := by
  rw [field]
  cases field? column <;> simp

theorem exists_forall₂_iff {α β : Type} {R : α → β → Prop} {items : List α} :
    (∃ others, List.Forall₂ R items others) ↔ ∀ item ∈ items, ∃ other, R item other := by
  induction items with
  | nil => exact iff_of_true ⟨[], .nil⟩ nofun
  | cons item rest ih =>
    rw [List.forall_mem_cons, ← ih]
    constructor
    · rintro ⟨_, all⟩
      obtain ⟨other, others, here, later, -⟩ := List.forall₂_cons_left_iff.1 all
      exact ⟨⟨other, here⟩, others, later⟩
    · rintro ⟨⟨other, here⟩, others, later⟩
      exact ⟨other :: others, .cons here later⟩

namespace Decoder

/-- A key is the position of a rank, and the value is the count under it by the name of the rank. -/
def Ranks (ranks : List Int32) (histogram : Histogram) (key : UInt64) (value : NamedValue) : Prop :=
  ∃ rank, ranks[key.toNat]? = some rank ∧ value.id = Numeral.render rank.toInt ∧
    histogram.get? key = some value.value

/-- The percentiles in a histogram, one for each of its keys that is the position of a rank, in
ascending order. Other keys are left out. -/
def Ranked (ranks : List Int32) (histogram : Histogram) (values : List NamedValue) : Prop :=
  ∃ keys : List UInt64, keys.Pairwise (· < ·) ∧
    (∀ key, key ∈ keys ↔ key.toNat < ranks.length ∧ histogram.contains key = true) ∧
    List.Forall₂ (Ranks ranks histogram) keys values

/-- The logical columns that integers are read from in the rows of a metric, by its kind. -/
inductive Needs (metadata : Metadata) (metric : String) : Kind → List String → Prop
  | average : Needs metadata metric .average ["value", "count", "max", "min"]
  | percentage : Needs metadata metric .percentage ["match", "total", "percentage"]
  | single {kind : Kind} {column : String} : kind.Specializes .singleValue →
    metadata.valueColumn metric = .ok column → Needs metadata metric kind [column]

/-- A logical column is stored somewhere, and what is there is this value under its name. -/
def Holds (metadata : Metadata) (metric : String) (field? : String → Option Json) (column : String)
    (value : NamedValue) : Prop :=
  value.id = column ∧ ∃ physical json, metadata.physicalName metric column = .ok physical ∧
    field? physical = some json ∧ json.DenotesLong value.value

/-- The metric is registered, and every column that its kind needs is stored somewhere, is there and
holds a value of the right sort. -/
inductive Readable (context : Context) (metric : String) (field? : String → Option Json) : Prop
  | integers {descriptor : Descriptor} {columns : List String} :
    context.catalog.registry.resolve metric = .ok descriptor →
    Needs context.catalog.metadata metric descriptor.kind columns →
    (∀ column ∈ columns, ∃ value, Holds context.catalog.metadata metric field? column value) →
    Readable context metric field?
  | percentiles {descriptor : Descriptor} {physical : String} {json : Json}
    {histogram : Histogram} : context.catalog.registry.resolve metric = .ok descriptor →
    descriptor.kind = .percentile →
    context.catalog.metadata.physicalName metric "value" = .ok physical →
    field? physical = some json → json.DenotesHistogram histogram → Readable context metric field?

/-- What a row of a metric says, if every column that the kind needs can be read. -/
inductive Decodes (context : Context) (metric : String) (field? : String → Option Json) :
    ValueSet → Prop
  | integers {descriptor : Descriptor} {columns : List String} {values : List NamedValue} :
    context.catalog.registry.resolve metric = .ok descriptor →
    Needs context.catalog.metadata metric descriptor.kind columns →
    List.Forall₂ (Holds context.catalog.metadata metric field?) columns values →
    Decodes context metric field? ⟨metric, values⟩
  | percentiles {descriptor : Descriptor} {physical : String} {json : Json} {histogram : Histogram}
    {values : List NamedValue} : context.catalog.registry.resolve metric = .ok descriptor →
    descriptor.kind = .percentile →
    context.catalog.metadata.physicalName metric "value" = .ok physical →
    field? physical = some json → json.DenotesHistogram histogram →
    Ranked context.ranks histogram values → Decodes context metric field? ⟨metric, values⟩

variable {context : Context} {metadata : Metadata} {metric : String}
  {field? : String → Option Json} {ranks : List Int32} {histogram : Histogram}
  {values : List NamedValue}

theorem ranked_unique {others : List NamedValue} (ranked : Ranked ranks histogram values)
    (rankedToo : Ranked ranks histogram others) : values = others := by
  obtain ⟨keys, ascending, mem, pairs⟩ := ranked
  obtain ⟨keys', ascending', mem', pairs'⟩ := rankedToo
  obtain rfl : keys = keys' :=
    ascending.eq_of_mem_iff ascending' fun key => (mem key).trans (mem' key).symm
  refine List.right_unique_forall₂' ?_ pairs pairs'
  rintro key ⟨id, value⟩ ⟨id', value'⟩ ⟨rank, at_, rfl, found⟩ ⟨rank', at', rfl, found'⟩
  cases at_.symm.trans at'
  cases found.symm.trans found'
  rfl

theorem forall₂_ranks {entries : List (UInt64 × Int64)}
    (held : ∀ entry ∈ entries, histogram.get? entry.1 = some entry.2) :
    List.Forall₂ (Ranks ranks histogram) ((entries.map (·.1)).filter (·.toNat < ranks.length))
      (entries.filterMap fun (position, value) =>
        ranks[position.toNat]?.map fun rank => ⟨Numeral.render rank.toInt, value⟩) := by
  induction entries with
  | nil => exact .nil
  | cons entry rest ih =>
    have later := ih fun other mem => held other (List.mem_cons_of_mem _ mem)
    rw [List.map_cons, List.filter_cons, List.filterMap_cons]
    by_cases position : entry.1.toNat < ranks.length
    · have rank := List.getElem?_eq_getElem position
      simp only [position, rank, decide_true, if_true, Option.map_some]
      exact .cons ⟨_, rank, rfl, held entry List.mem_cons_self⟩ later
    · have none := List.getElem?_eq_none (Nat.not_lt.1 position)
      simp only [position, none, decide_false, Bool.false_eq_true, if_false, Option.map_none]
      exact later

theorem ranked_rankValues (ranks : List Int32) (histogram : Histogram) :
    Ranked ranks histogram (rankValues ranks histogram) := by
  refine ⟨histogram.keys.filter (·.toNat < ranks.length), ?_, fun key => ?_,
    forall₂_ranks fun entry mem => Histogram.mem_entries_iff.1 mem⟩
  · exact (List.pairwise_map.2 histogram.ascending).filter _
  · simp [Histogram.keys, Histogram.contains, Histogram.mem_entries_iff,
      Option.isSome_iff_exists, and_comm]

theorem ranked_iff : Ranked ranks histogram values ↔ rankValues ranks histogram = values :=
  ⟨ranked_unique (ranked_rankValues ranks histogram), fun same => same ▸ ranked_rankValues ..⟩

theorem readLong_eq_ok_iff {column : String} {value : NamedValue} :
    readLong metadata metric (.ofJson field?) column = .ok value ↔
      Holds metadata metric field? column value := by
  constructor
  · intro h
    obtain ⟨physical, stored, h⟩ := Except.bind_eq_ok_iff.1 h
    obtain ⟨found, read, same⟩ := Except.bind_eq_ok_iff.1 h
    obtain ⟨json, present, read⟩ := Except.bind_eq_ok_iff.1 read
    cases same
    exact ⟨rfl, physical, json, stored, Row.field_eq_ok_iff.1 present,
      Json.map_toLong_eq_ok_iff.1 (congrArg (Except.map (·.getD 0)) read)⟩
  · obtain ⟨id, value⟩ := value
    rintro ⟨rfl, physical, json, stored, present, denotes⟩
    obtain ⟨found, read, rfl⟩ := Except.map_eq_ok_iff.1 (Json.map_toLong_eq_ok_iff.2 denotes)
    have field : Row.field field? physical = .ok json := Row.field_eq_ok_iff.2 present
    rw [readLong, stored, Except.ok_bind, Row.ofJson]
    dsimp only
    rw [field, Except.ok_bind, read]
    rfl

theorem readRanks_eq_ok_iff : readRanks context metric (.ofJson field?) = .ok values ↔
    ∃ physical json histogram,
      context.catalog.metadata.physicalName metric "value" = .ok physical ∧
      field? physical = some json ∧ json.DenotesHistogram histogram ∧
      Ranked context.ranks histogram values := by
  constructor
  · intro h
    obtain ⟨physical, stored, h⟩ := Except.bind_eq_ok_iff.1 h
    obtain ⟨text, read, h⟩ := Except.bind_eq_ok_iff.1 h
    obtain ⟨json, present, same⟩ := Except.bind_eq_ok_iff.1 read
    cases same
    split at h
    · next histogram decoded =>
      cases h
      exact ⟨physical, json, histogram, stored, Row.field_eq_ok_iff.1 present,
        Json.decode_toText_eq_ok_iff.1 decoded, ranked_rankValues ..⟩
    · contradiction
  · rintro ⟨physical, json, histogram, stored, present, denotes, ranked⟩
    have field : Row.field field? physical = .ok json := Row.field_eq_ok_iff.2 present
    rw [readRanks, stored, Except.ok_bind, Row.ofJson]
    dsimp only
    rw [field, Except.ok_bind, Except.ok_bind, Json.decode_toText_eq_ok_iff.2 denotes,
      ← ranked_iff.1 ranked]

theorem needs_iff {kind : Kind} {columns : List String} : Needs metadata metric kind columns ↔
    match kind with
    | .percentile => False
    | .average => columns = ["value", "count", "max", "min"]
    | .percentage => columns = ["match", "total", "percentage"]
    | .singleValue | .cpm | .sum | .max =>
      ∃ column, metadata.valueColumn metric = .ok column ∧ columns = [column] := by
  constructor
  · intro needs
    cases needs with
    | average => rfl
    | percentage => rfl
    | single specializes shown =>
      rcases Kind.specializes_singleValue_iff.1 specializes with rfl | rfl | rfl | rfl
      all_goals exact ⟨_, shown, rfl⟩
  · intro h
    cases kind with
    | percentile => contradiction
    | average =>
      obtain rfl := h
      exact .average
    | percentage =>
      obtain rfl := h
      exact .percentage
    | singleValue | cpm | sum | max =>
      obtain ⟨column, shown, rfl⟩ := h
      exact .single (Kind.specializes_singleValue_iff.2 (by simp)) shown

theorem readValues_eq_ok_iff {kind : Kind} (other : kind ≠ .percentile) :
    readValues context metric (.ofJson field?) kind = .ok values ↔
      ∃ columns, Needs context.catalog.metadata metric kind columns ∧
        List.Forall₂ (Holds context.catalog.metadata metric field?) columns values := by
  cases kind with
  | percentile => contradiction
  | average | percentage =>
    simp only [needs_iff, exists_eq_left, readValues, Except.mapM_eq_ok_iff, readLong_eq_ok_iff]
  | singleValue | cpm | sum | max =>
    simp only [needs_iff, readValues, Except.bind_eq_ok_iff, readLong_eq_ok_iff, Except.ok.injEq]
    constructor
    · rintro ⟨column, shown, value, holds, rfl⟩
      exact ⟨_, ⟨column, shown, rfl⟩, .cons holds .nil⟩
    · rintro ⟨_, ⟨column, shown, rfl⟩, all⟩
      obtain ⟨value, _, holds, last, rfl⟩ := List.forall₂_cons_left_iff.1 all
      cases last
      exact ⟨column, shown, value, holds, rfl⟩

theorem decode_eq_ok_iff {set : ValueSet} :
    decode context metric (.ofJson field?) = .ok set ↔ Decodes context metric field? set := by
  constructor
  · intro h
    obtain ⟨descriptor, resolved, h⟩ := Except.bind_eq_ok_iff.1 h
    obtain ⟨values, read, same⟩ := Except.bind_eq_ok_iff.1 h
    cases same
    by_cases percentile : descriptor.kind = .percentile
    · rw [percentile, readValues] at read
      obtain ⟨physical, json, histogram, stored, present, denotes, ranked⟩ :=
        readRanks_eq_ok_iff.1 read
      exact .percentiles resolved percentile stored present denotes ranked
    · obtain ⟨columns, needs, all⟩ := (readValues_eq_ok_iff percentile).1 read
      exact .integers resolved needs all
  · intro h
    cases h with
    | @integers descriptor columns values resolved needs all =>
      have other : descriptor.kind ≠ .percentile := by
        intro same
        exact needs_iff.1 (same ▸ needs)
      rw [decode, resolved, Except.ok_bind, (readValues_eq_ok_iff other).2 ⟨columns, needs, all⟩]
      rfl
    | percentiles resolved percentile stored present denotes ranked =>
      rw [decode, resolved, Except.ok_bind, percentile, readValues,
        readRanks_eq_ok_iff.2 ⟨_, _, _, stored, present, denotes, ranked⟩]
      rfl

/-- A row says something if it can be read; histograms always have their percentiles. -/
theorem exists_decodes_iff :
    (∃ set, Decodes context metric field? set) ↔ Readable context metric field? := by
  constructor
  · rintro ⟨_, ⟨resolved, needs, all⟩ | ⟨resolved, percentile, stored, present, denotes, -⟩⟩
    · exact .integers resolved needs (exists_forall₂_iff.1 ⟨_, all⟩)
    · exact .percentiles resolved percentile stored present denotes
  · rintro (⟨resolved, needs, all⟩ | ⟨resolved, percentile, stored, present, denotes⟩)
    · obtain ⟨values, all⟩ := exists_forall₂_iff.2 all
      exact ⟨_, .integers resolved needs all⟩
    · exact ⟨_, .percentiles resolved percentile stored present denotes (ranked_rankValues ..)⟩

/-- A row of JSON values is decoded exactly if the metric is registered and each column that its
kind needs is stored somewhere, is there and can be read; it then says what these columns say, under
the name of the metric. Rows that agree where these columns are stored are decoded alike, and fail
alike, whatever else they hold. -/
theorem rows_are_read (context : Context) (metric : String) (field? : String → Option Json) :
    ((∃ set, decode context metric (.ofJson field?) = .ok set) ↔
      Readable context metric field?) ∧
    (∀ set, decode context metric (.ofJson field?) = .ok set ↔ Decodes context metric field? set) ∧
    ∀ other? : String → Option Json,
      (∀ physical, Reads context.catalog metric physical → other? physical = field? physical) →
      decode context metric (.ofJson other?) = decode context metric (.ofJson field?) := by
  refine ⟨?_, fun set => decode_eq_ok_iff, fun other? same => decode_congr fun physical reads => ?_⟩
  · simp only [decode_eq_ok_iff, exists_decodes_iff]
  · simp only [Row.ofJson, Row.field, same physical reads, and_self]

/-- A row with a renamed column, a field under the logical name of that column, and integers as a
whole binary number and as a numeral between blanks. -/
theorem rows_are_read_renamed :
    let catalog : Catalog := ⟨⟨[.ofKind "sla" .percentage]⟩,
      (Metadata.empty (some (Overrides.empty.renameFor "sla" "match" "match_num"))).add
        (.ofKind "sla" .percentage)⟩
    let fields : List (String × Json) := [("match", .string "decoy"), ("match_num", .int 2),
      ("total", .number (.float ⟨false, 6755399441055744, -51⟩)), ("percentage", .string " +6666 ")]
    let set : ValueSet := ⟨"sla", [⟨"match", 2⟩, ⟨"total", 3⟩, ⟨"percentage", 6666⟩]⟩
    Readable (.ofCatalog catalog) "sla" (fields.lookup ·) ∧
      Decodes (.ofCatalog catalog) "sla" (fields.lookup ·) set ∧
      decode (.ofCatalog catalog) "sla" (.ofFields fields.tail) = .ok set := by
  intro catalog fields set
  obtain ⟨readable, decoded, frame⟩ := rows_are_read (.ofCatalog catalog) "sla" (fields.lookup ·)
  have read : decode (.ofCatalog catalog) "sla" (.ofFields fields) = .ok set := by decide +kernel
  refine ⟨readable.1 ⟨set, read⟩, (decoded set).1 read,
    (frame (fields.tail.lookup ·) fun physical reads => ?_).trans read⟩
  have other : physical ≠ "match" := by
    obtain ⟨descriptor, resolved, column, mem, named⟩ := reads
    cases resolved
    rintro rfl
    have columns : ∀ column ∈ ["match", "total", "percentage"],
        catalog.metadata.physicalName "sla" column ≠ .ok "match" := by decide +kernel
    exact columns column mem named
  change _ = (("match", Json.string "decoy") :: fields.tail).lookup physical
  rw [List.lookup_cons, beq_false_of_ne other]

end Decoder

end Rollup
