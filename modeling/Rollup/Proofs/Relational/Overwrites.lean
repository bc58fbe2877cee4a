import Rollup.Proofs.Relational.RowOrder
import Rollup.Proofs.Relational.Transactions
import Mathlib

/-!
Records that are written over. A write changes the columns of its record only, so a record stands
for those written before it at its place if it gives a value for each of their columns. Then the
last records of all places alone lead to alike tables (`Table.alike_foldl_absorb`), and queries
cannot tell (`last_records_alone`). A record without an owner does not stand for one with an owner:
the owner of the earlier one is kept.
-/
namespace Rollup

theorem latest_of_mapM {ε α β γ : Type} {value? : α → Option β} {f : γ → Except ε α}
    {items : List γ} {results : List α} (h : items.mapM f = .ok results) :
    latest value? results = latest (fun item => (f item).toOption.bind value?) items := by
  have pairs := Except.mapM_eq_ok_iff.1 h
  clear h
  induction pairs with
  | nil => rfl
  | cons here _ ih => rw [latest, latest, ih, here, Except.toOption, Option.bind_some]

namespace Table

variable {table other : Table} {writes others : List Write}

theorem Sound.foldl_absorb (sound : table.Sound) (writes : List Write) :
    (writes.foldl Table.absorb table).Sound := by
  induction writes generalizing table with
  | nil => exact sound
  | cons write rest ih => exact ih (sound.absorb write)

/-- In a table with a key the row of a key is the only one. -/
theorem Sound.mem_rows_iff (sound : table.Sound) (keyed : table.keyed = true) {row : List Cell} :
    row ∈ table.rows ↔ table.rowAt? row.head? = some row := by
  constructor
  · intro mem
    have found : (table.rowAt? row.head?).isSome := by
      rw [rowAt?, List.find?_isSome]
      exact ⟨row, mem, by simp⟩
    obtain ⟨held, eq⟩ := Option.isSome_iff_exists.1 found
    have key : held.head? = row.head? := by simpa using List.find?_some eq
    rw [eq, List.inj_on_of_nodup_map (sound.unique keyed) (List.mem_of_find?_eq_some eq) mem key]
  · exact List.mem_of_find?_eq_some

/-- The rows of a table with a key are known from the row of each key. -/
theorem Sound.rows_perm (sound : table.Sound) (keyed : table.keyed = true) (kept : other.Sound)
    (shape : table.shape = other.shape) (same : ∀ key, table.rowAt? key = other.rowAt? key) :
    table.rows.Perm other.rows := by
  have keyed' : other.keyed = true := by
    rw [← keyed_shape, ← shape, keyed_shape, keyed]
  rw [List.perm_ext_iff_of_nodup (sound.unique keyed).of_map (kept.unique keyed').of_map]
  intro row
  rw [sound.mem_rows_iff keyed, kept.mem_rows_iff keyed', same]

theorem accepted?_of_unkeyed (unkeyed : table.keyed = false) (write : Write) :
    table.accepted? write = none := by
  apply Option.eq_none_iff_forall_ne_some.2
  intro given accepted
  have keyed := (prepare_eq_ok (accepted?_eq_some_iff.1 accepted).2).2.2
  rw [unkeyed] at keyed
  contradiction

section Last

variable (sound : table.Sound)
  (rows : ∀ key, latest (table.sets? key) writes = latest (table.sets? key) others)
  (cells : ∀ key, ∀ column ∈ table.columns,
    latest (fun write => (table.sets? key write).bind (givenFor? · column)) writes =
      latest (fun write => (table.sets? key write).bind (givenFor? · column)) others)

include sound rows cells

/-- Writes that give a row the same last cells leave the same row. -/
theorem rowAt?_foldl_absorb_congr (key : Option Cell) :
    (writes.foldl absorb table).rowAt? key = (others.foldl absorb table).rowAt? key := by
  have blank (writes : List Write) : (writes.foldl absorb table).blank = table.blank := by
    rw [Table.blank, columns_foldl_absorb, Table.blank]
  have stands : ((writes.foldl absorb table).rowAt? key).isSome =
      ((others.foldl absorb table).rowAt? key).isSome := by
    simp [rowAt?_foldl_absorb, isSome_foldl_revise, rows key]
  have row : ((writes.foldl absorb table).rowAt? key).getD table.blank =
      ((others.foldl absorb table).rowAt? key).getD table.blank := by
    have here := (sound.foldl_absorb writes).length_rowAt? key
    have there := (sound.foldl_absorb others).length_rowAt? key
    rw [columns_foldl_absorb, blank] at here there
    apply List.ext_getElem (here.trans there.symm)
    intro i bound _
    have at_ := List.getElem?_eq_getElem (here ▸ bound)
    obtain ⟨old, held⟩ := sound.exists_cell key at_
    rw [← Option.some_inj, ← List.getElem?_eq_getElem, ← List.getElem?_eq_getElem,
      rowAt?_foldl_absorb, rowAt?_foldl_absorb, getElem?_foldl_revise at_ key held,
      getElem?_foldl_revise at_ key held, cells key _ (List.getElem_mem _)]
  revert stands row
  cases (writes.foldl absorb table).rowAt? key <;>
    cases (others.foldl absorb table).rowAt? key <;> simp

theorem alike_foldl_absorb : (writes.foldl absorb table).Alike (others.foldl absorb table) := by
  have shape : (writes.foldl absorb table).shape = (others.foldl absorb table).shape := by simp
  by_cases keyed : table.keyed
  · have keyed' : (writes.foldl absorb table).keyed = true := by
      rw [← keyed_shape, shape_foldl_absorb, keyed_shape, keyed]
    have same := rowAt?_foldl_absorb_congr sound rows cells
    refine ⟨shape, ?_, by simp [keyed']⟩
    exact (sound.foldl_absorb writes).rows_perm keyed' (sound.foldl_absorb others) shape same
  · have untouched (writes : List Write) : writes.foldl absorb table = table :=
      foldl_absorb_eq_self fun write _ => accepted?_of_unkeyed (by simpa using keyed) write
    rw [untouched, untouched]
    exact ⟨rfl, .refl _, fun _ => rfl⟩

end Last

end Table

namespace Relational

variable {adapter : Relational}

def Call.isInsert : Call → Bool
  | createTable _ _ => false
  | insert _ _ => true

namespace Entry

def write (adapter : Relational) (entry : Entry) : Outcome Write :=
  adapter.write entry.metric entry.record

/-- The call that writes nothing but the record. -/
def alone (entry : Entry) : Call :=
  .insert entry.metric [entry.record]

/-- The record gives a value for every column that the other one gives a value for. -/
def Covers (entry other : Entry) : Prop :=
  other.record.row.map (·.1) ⊆ entry.record.row.map (·.1)

instance (entry other : Entry) : Decidable (entry.Covers other) :=
  inferInstanceAs (Decidable ((_ : List String) ⊆ _))

theorem lasts_sublist (entries : List Entry) : (lasts entries).Sublist entries := by
  induction entries with
  | nil => exact .slnil
  | cons entry later ih =>
    rw [lasts]
    split
    · exact ih.cons entry
    · exact ih.cons_cons entry

/-- Leaving out entries does not matter if a later one at the place has a value whenever they
have. -/
theorem latest_lasts {β : Type} {value? : Entry → Option β} {entries : List Entry}
    (h : entries.Pairwise fun entry later =>
      entry.place = later.place → (value? entry).isSome → (value? later).isSome) :
    latest value? (lasts entries) = latest value? entries := by
  induction entries with
  | nil => rfl
  | cons entry later ih =>
    rw [lasts, latest, ← ih h.of_cons]
    split
    · next again =>
      cases value : value? entry with
      | none => simp
      | some own =>
        obtain ⟨other, mem, same⟩ := List.mem_map.1 again
        have given := List.rel_of_pairwise_cons h mem same.symm (by simp [value])
        rw [ih h.of_cons]
        cases last : latest value? later with
        | none => simp [latest_eq_none_iff.1 last other mem] at given
        | some found => rfl
    · rfl

/-- A record of the same kind covers another one unless that has an owner and it has none. -/
theorem covers_of_kind {entry other : Entry} (kind : entry.record.kind = other.record.kind)
    (owned : other.record.key.service.isSome → entry.record.key.service.isSome) :
    entry.Covers other := by
  obtain ⟨_, ⟨_, service, _⟩, measure⟩ := entry
  obtain ⟨_, ⟨_, owner, _⟩, measured⟩ := other
  cases service <;> cases owner <;> cases measure <;> cases measured <;>
    simp_all [Covers, Record.row, Record.kind, Measure.kind, Measure.columns]

end Entry

section Sound

variable {database : Database} (sound : database.Sound) {table : Table}
  (mem : table ∈ database.tables)

include sound mem

/-- A record that covers another one at its place sets every column that the other one sets. -/
theorem sets?_of_covers {entry later : Entry} (place : entry.place = later.place)
    (covers : later.Covers entry) {write next : Write} (made : entry.write adapter = .ok write)
    (later_made : later.write adapter = .ok next) (accepts : database.Accepts next)
    {key : Option Cell} {given : List (String × Cell)} (sets : table.sets? key write = some given) :
    ∃ more, table.sets? key next = some more ∧ given.map (·.1) ⊆ more.map (·.1) := by
  have tableSound := sound.tables table mem
  obtain ⟨named, -, names⟩ := write_eq_ok made
  obtain ⟨later_named, -, later_names⟩ := write_eq_ok later_made
  rw [sets?_of_write tableSound made, (Entry.place_eq_iff.1 place).2] at sets
  split at sets
  swap
  · contradiction
  next own =>
  obtain ⟨same, prepared⟩ := Table.accepted?_eq_some_iff.1 sets
  obtain ⟨other, listed, taken⟩ := accepts.taken
  obtain ⟨more, accepted⟩ := Option.isSome_iff_exists.1 taken
  obtain ⟨same', prepared'⟩ := Table.accepted?_eq_some_iff.1 accepted
  simp only [Entry.place, Prod.mk.injEq] at place
  obtain ⟨metrics, -, buckets⟩ := place
  -- both are for the same table, and only one is named so
  have table_eq : write.1 = next.1 := by
    rw [metrics, buckets, later_named, Except.ok.injEq] at named
    exact named.symm
  rw [table_eq] at same
  have only : other = table :=
    eq_of_distinct sound.names listed mem ((sameName_congr same _).trans same')
  subst only
  refine ⟨more, by rw [sets?_of_write tableSound later_made, if_pos own, accepted], ?_⟩
  rw [Table.names_prepare prepared, Table.names_prepare prepared']
  intro name written
  obtain ⟨column, given, stored⟩ := (names name).1 written
  rw [metrics] at stored
  exact (later_names name).2 ⟨column, covers given, stored⟩

/-- What is set last is set by a record that is last at its place. -/
theorem latest_writes {entries : List Entry}
    (covered : entries.Pairwise fun entry later => entry.place = later.place → later.Covers entry)
    {writes others : List Write} (made : entries.mapM (Entry.write adapter) = .ok writes)
    (accepts : ∀ write ∈ writes, database.Accepts write)
    (last : (Entry.lasts entries).mapM (Entry.write adapter) = .ok others) {γ : Type}
    {value? : List (String × Cell) → Option γ}
    (grows : ∀ given more, given.map (·.1) ⊆ more.map (·.1) →
      (value? given).isSome → (value? more).isSome) (key : Option Cell) :
    latest (fun write => (table.sets? key write).bind value?) writes =
      latest (fun write => (table.sets? key write).bind value?) others := by
  rw [latest_of_mapM made, latest_of_mapM last, Entry.latest_lasts]
  apply covered.imp_of_mem
  intro entry later listed later_listed covers place given
  obtain ⟨write, -, eq⟩ := (Except.mem_of_mapM_eq_ok made).1 entry listed
  obtain ⟨next, mem', later_eq⟩ := (Except.mem_of_mapM_eq_ok made).1 later later_listed
  rw [eq, Except.toOption, Option.bind_some] at given
  rw [later_eq, Except.toOption, Option.bind_some]
  cases sets : table.sets? key write with
  | none => simp [sets] at given
  | some cells =>
    obtain ⟨more, later_sets, grown⟩ := sets?_of_covers sound mem place (covers place) eq later_eq
      (accepts next mem') sets
    rw [sets] at given
    rw [later_sets]
    exact grows cells more grown given

end Sound

/-- The records that are last at their places leave a database like the one that all leave. -/
theorem alike_of_lasts {database : Database} (sound : database.Sound) {entries : List Entry}
    (covered : entries.Pairwise fun entry later => entry.place = later.place → later.Covers entry)
    {writes others : List Write} (made : entries.mapM (Entry.write adapter) = .ok writes)
    (accepts : ∀ write ∈ writes, database.Accepts write)
    (last : (Entry.lasts entries).mapM (Entry.write adapter) = .ok others) :
    (writes.foldl Database.absorb database).Alike (others.foldl Database.absorb database) := by
  rw [Database.Alike, Database.tables_foldl_absorb, Database.tables_foldl_absorb,
    List.forall₂_map_left_iff, List.forall₂_map_right_iff, List.forall₂_same]
  intro table mem
  have same {γ : Type} := @latest_writes adapter database sound table mem _ covered writes
    others made accepts last γ
  apply Table.alike_foldl_absorb (sound.tables table mem)
  · intro key
    have sets := @same _ some (fun _ _ _ _ => rfl) key
    simpa using sets
  · intro key column _
    apply same
    intro given more grown set
    rw [Table.isSome_givenFor?] at set ⊢
    obtain ⟨name, written, same⟩ := set
    exact ⟨name, grown written, same⟩

theorem writes_of_call {call : Call} {store after : Store} (sound : store.database.Sound)
    (insert : call.isInsert = true) (ran : call.run adapter store = .ok after) :
    store.pool.Free ∧ after.pool.Free ∧
      ∃ writes, call.entries.mapM (Entry.write adapter) = .ok writes ∧
        (∀ write ∈ writes, store.database.Accepts write) ∧
        writes.foldl Database.absorb store.database = after.database := by
  cases call with
  | createTable model bucket => contradiction
  | insert metric records =>
    rw [Call.run] at ran
    split at ran
    swap
    · contradiction
    next inserted =>
    cases ran
    obtain ⟨free, -⟩ := writes_of_insert inserted
    obtain ⟨writes, made, written, kept⟩ := insert_eq_ok free inserted
    refine ⟨free, kept, writes, ?_, sound.foldlM_carryOut_eq_ok_iff.1 written⟩
    rw [Call.entries, List.mapM_map]
    exact made

/-- By induction on the calls: a run that only writes records carries out the writes of all. -/
theorem writes_of_run {calls : List Call} {store after : Store} (sound : store.database.Sound)
    (inserts : ∀ call ∈ calls, call.isInsert = true)
    (ran : calls.foldlM (Call.run adapter) store = .ok after) :
    (calls ≠ [] → store.pool.Free) ∧ (store.pool.Free ↔ after.pool.Free) ∧
      ∃ writes, (calls.flatMap Call.entries).mapM (Entry.write adapter) = .ok writes ∧
        (∀ write ∈ writes, store.database.Accepts write) ∧
        writes.foldl Database.absorb store.database = after.database := by
  induction calls generalizing store with
  | nil =>
    cases ran
    exact ⟨fun h => absurd rfl h, .rfl, [], rfl, nofun, rfl⟩
  | cons call rest ih =>
    rw [List.foldlM_cons] at ran
    obtain ⟨next, first, ran⟩ := Except.bind_eq_ok_iff.1 ran
    rw [List.forall_mem_cons] at inserts
    obtain ⟨free, kept, writes, made, accepts, eq⟩ := writes_of_call sound inserts.1 first
    have sound' : next.database.Sound := eq ▸ sound.foldl_absorb writes
    obtain ⟨-, frees, others, later, taken, eq'⟩ := ih sound' inserts.2 ran
    rw [← eq] at taken eq'
    refine ⟨fun _ => free, iff_of_true free (frees.1 kept), writes ++ others, ?_, ?_, ?_⟩
    · rw [List.flatMap_cons, List.mapM_append, made, Except.ok_bind, later]
      rfl
    · intro write mem
      rcases List.mem_append.1 mem with mem | mem
      · exact accepts write mem
      · exact (Database.accepts_foldl_absorb writes write).1 (taken write mem)
    · rw [List.foldl_append, eq']

/-- By induction on the records: each can be written alone, after those before it. -/
theorem exists_run_alone {entries : List Entry} {store : Store} (sound : store.database.Sound)
    (free : entries ≠ [] → store.pool.Free)
    (fits : ∀ entry ∈ entries, ∃ write, entry.write adapter = .ok write ∧
      store.database.Accepts write) :
    ∃ after, (entries.map Entry.alone).foldlM (Call.run adapter) store = .ok after := by
  induction entries generalizing store with
  | nil => exact ⟨store, rfl⟩
  | cons entry rest ih =>
    rw [List.forall_mem_cons] at fits
    obtain ⟨⟨write, made, accepts⟩, others⟩ := fits
    have inserted : (adapter.insert entry.metric [entry.record] store).1 = .ok 1 :=
      (insert_one_eq_ok_iff sound).2 ⟨free (List.cons_ne_nil _ _), write, made, accepts⟩
    have ran : entry.alone.run adapter store =
        .ok (adapter.insert entry.metric [entry.record] store).2 := by
      rw [Entry.alone, Call.run]
      split
      · next eq => rw [eq]
      · next eq =>
        rw [eq] at inserted
        contradiction
    obtain ⟨-, kept, writes, -, -, eq⟩ := writes_of_call sound rfl ran
    have sound' : (adapter.insert entry.metric [entry.record] store).2.database.Sound :=
      sound_insert adapter sound entry.metric [entry.record]
    obtain ⟨after, later⟩ := ih sound' (fun _ => kept) fun other mem => by
      obtain ⟨write, made, accepts⟩ := others other mem
      exact ⟨write, made, eq ▸ (Database.accepts_foldl_absorb writes write).2 accepts⟩
    refine ⟨after, ?_⟩
    rw [List.map_cons, List.foldlM_cons, ran, Except.ok_bind, later]

/-- Records that cover those before them at their places replace them as a whole: after calls that
write them, whatever their batches, every query gets the results that it would get if, of each
metric, only the last record of each entity and bucket had been written. -/
theorem last_records_alone (adapter : Relational) {store after : Store}
    (sound : store.database.Sound) {calls : List Call}
    (inserts : ∀ call ∈ calls, call.isInsert = true)
    (ran : calls.foldlM (Call.run adapter) store = .ok after)
    (covered : (calls.flatMap Call.entries).Pairwise fun entry later =>
      entry.place = later.place → later.Covers entry) :
    ∃ alone, ((Entry.lasts (calls.flatMap Call.entries)).map Entry.alone).foldlM
        (Call.run adapter) store = .ok alone ∧
      ∀ request bucket, Except.Agree List.Perm (adapter.read request bucket after).1
        (adapter.read request bucket alone).1 := by
  obtain ⟨ready, free, writes, made, accepts, eq⟩ := writes_of_run sound inserts ran
  have kept := (Entry.lasts_sublist (calls.flatMap Call.entries)).subset
  obtain ⟨alone, ranAlone⟩ : ∃ alone, ((Entry.lasts (calls.flatMap Call.entries)).map
      Entry.alone).foldlM (Call.run adapter) store = .ok alone := by
    apply exists_run_alone sound
    · intro some
      apply ready
      rintro rfl
      exact some rfl
    · intro entry mem
      obtain ⟨write, listed, eq⟩ := (Except.mem_of_mapM_eq_ok made).1 entry (kept mem)
      exact ⟨write, eq, accepts write listed⟩
  have allInserts : ∀ call ∈ (Entry.lasts (calls.flatMap Call.entries)).map Entry.alone,
      call.isInsert = true := by
    simp [Entry.alone, Call.isInsert]
  obtain ⟨-, freeAlone, others, last, -, eqAlone⟩ := writes_of_run sound allInserts ranAlone
  have entries : ((Entry.lasts (calls.flatMap Call.entries)).map Entry.alone).flatMap Call.entries =
      Entry.lasts (calls.flatMap Call.entries) := by
    simp [List.flatMap_map, Entry.alone, Call.entries]
  rw [entries] at last
  have alike : after.database.Alike alone.database := by
    rw [← eq, ← eqAlone]
    exact alike_of_lasts sound covered made accepts last
  refine ⟨alone, ranAlone, fun request bucket => ?_⟩
  apply agree_read adapter (eq ▸ sound.foldl_absorb writes) alike
  exact free.symm.trans freeAlone

/-- Two records of one entity in one batch, with one of another entity between them. -/
theorem last_records_alone_sum :
    let model := Model.ofKind "m" .sum
    let adapter : Relational :=
      ⟨.ofCatalog ⟨⟨[.ofKind "m" .sum]⟩, ⟨[("m", model)], none⟩⟩, ""⟩
    let store := (adapter.createTable model 20240101 (Store.ofSize 2)).2
    let first : Record := ⟨⟨"a", none, 20240101⟩, .sum 1⟩
    let other : Record := ⟨⟨"b", some "svc", 20240101⟩, .sum 5⟩
    let second : Record := ⟨⟨"a", some "svc", 20240101⟩, .sum 2⟩
    ∃ after alone,
      [Call.insert "m" [first, other, second]].foldlM (Call.run adapter) store = .ok after ∧
      [Call.insert "m" [other], .insert "m" [second]].foldlM (Call.run adapter) store =
        .ok alone ∧
      ∀ request bucket, Except.Agree List.Perm (adapter.read request bucket after).1
        (adapter.read request bucket alone).1 := by
  intro model adapter store first other second
  have sound : store.database.Sound :=
    Store.sound_of_uses 2 [.createTable adapter model 20240101]
  have succeeds : ([Call.insert "m" [first, other, second]].foldlM (Call.run adapter)
      store).isOk = true := by
    decide +kernel
  obtain ⟨after, ran⟩ := Except.isOk_iff.1 succeeds
  have alike : ([Call.insert "m" [first, other, second]].flatMap Call.entries).Pairwise
      fun entry later => later.record.kind = entry.record.kind ∧
        (entry.record.key.service.isSome → later.record.key.service.isSome) := by
    decide
  obtain ⟨alone, ranAlone, same⟩ := last_records_alone adapter sound (by decide) ran
    (alike.imp fun h _ => Entry.covers_of_kind h.1 h.2)
  exact ⟨after, alone, ran, ranAlone, same⟩

/-- A record without an owner is written over one with an owner. A query for the entities of the
owner still finds it, with the value of the later record. -/
theorem owner_is_kept :
    let model := Model.ofKind "m" .sum
    let adapter : Relational :=
      ⟨.ofCatalog ⟨⟨[.ofKind "m" .sum]⟩, ⟨[("m", model)], none⟩⟩, ""⟩
    let store := (adapter.createTable model 20240101 (Store.ofSize 2)).2
    let owned : Record := ⟨⟨"a", some "svc", 20240101⟩, .sum 1⟩
    let bare : Record := ⟨⟨"a", none, 20240101⟩, .sum 2⟩
    let calls := [Call.insert "m" [owned], .insert "m" [bare]]
    let request : Request := ⟨["m"], Scope.ofService "svc"⟩
    (do
      let after ← calls.foldlM (Call.run adapter) store
      (adapter.read request 20240101 after).1) =
        .ok [⟨"20240101_a", "svc", "20240101", [⟨"m", [⟨"value", 2⟩]⟩]⟩] ∧
      (do
        let alone ← ((Entry.lasts (calls.flatMap Call.entries)).map Entry.alone).foldlM
          (Call.run adapter) store
        (adapter.read request 20240101 alone).1) = .ok [] := by
  decide +kernel

end Relational

end Rollup
