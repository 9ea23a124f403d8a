import TunnelKeeper.Proofs.Toml.Records

/-!
What all values of a document have in common: in each table a key stands once, and whole numbers fit
64 bits with a sign. Scans make such values only, and nothing that lets the tables of a document
grow spoils them.
-/

namespace TunnelKeeper.Toml

/-- Keys stand once, and whole numbers fit, in the value and in all values inside. -/
inductive Value.Sound : Value → Prop where
  | text {s : String} : Sound (.text s)
  | integer {i : Int} (fits : Record.i64.Holds i) : Sound (.integer i)
  | float {x : Float} : Sound (.float x)
  | boolean {b : Bool} : Sound (.boolean b)
  | moment : Sound .moment
  | array {values : List Value} (each : ∀ v ∈ values, Sound v) : Sound (.array values)
  | table {origin : Origin} {entries : Entries} (distinct : (entries.map Prod.fst).Nodup)
    (each : ∀ entry ∈ entries, Sound entry.2) : Sound (.table origin entries)
  | tables {all : List Entries} (distinct : ∀ entries ∈ all, (entries.map Prod.fst).Nodup)
    (each : ∀ entries ∈ all, ∀ entry ∈ entries, Sound entry.2) : Sound (.tables all)

/-- The same for the entries of a table. -/
structure Entries.Sound (entries : Entries) : Prop where
  distinct : (entries.map Prod.fst).Nodup
  each : ∀ entry ∈ entries, entry.2.Sound

namespace Value.Sound

variable {origin : Origin} {entries : Entries} {all : List Entries}

lemma of_table (sound : (Value.table origin entries).Sound) : Entries.Sound entries := by
  cases sound with
  | table distinct each => exact ⟨distinct, each⟩

lemma of_tables (sound : (Value.tables all).Sound) (mem : entries ∈ all) :
    Entries.Sound entries := by
  cases sound with
  | tables distinct each => exact ⟨distinct entries mem, each entries mem⟩

lemma of_entries (sound : Entries.Sound entries) : (Value.table origin entries).Sound :=
  .table sound.distinct sound.each

lemma of_all (each : ∀ entries ∈ all, Entries.Sound entries) : (Value.tables all).Sound :=
  .tables (fun entries mem => (each entries mem).distinct)
    fun entries mem => (each entries mem).each

lemma last (sound : (Value.tables all).Sound) (new : Entries.Sound entries) :
    (Value.tables (all.dropLast ++ [entries])).Sound := by
  refine of_all fun other mem => ?_
  rcases List.mem_append.1 mem with mem | mem
  · exact sound.of_tables ((List.dropLast_sublist all).mem mem)
  · rwa [List.mem_singleton.1 mem]

end Value.Sound

namespace Entries

variable {entries entries' : Entries} {key : String} {v : Value}

/-! ### Tables that grow -/

/-- A change that keeps tables sound. -/
def Keeps (change : Entries → Option Entries) : Prop :=
  ∀ entries entries', Sound entries → change entries = some entries' → Sound entries'

namespace Sound

lemma nil : Sound [] := ⟨List.nodup_nil, List.forall_mem_nil _⟩

lemma lookup (sound : Sound entries) {entry : String × Value} (mem : entry ∈ entries) :
    entries.lookup entry.1 = some entry.2 := by
  obtain ⟨before, after, rfl⟩ := List.append_of_mem mem
  refine List.lookup_eq_some_iff.2
    ⟨before, after, rfl, fun other among => bne_iff_ne.2 fun eq => ?_⟩
  have distinct := sound.distinct
  rw [List.map_append, List.map_cons, List.nodup_append] at distinct
  exact distinct.2.2 _ (List.mem_map_of_mem among) _ List.mem_cons_self eq.symm

lemma of_lookup (sound : Sound entries) (found : entries.lookup key = some v) : v.Sound := by
  obtain ⟨before, after, rfl, -⟩ := List.lookup_eq_some_iff.1 found
  exact sound.each (key, v) (List.mem_append_right _ List.mem_cons_self)

lemma append (sound : Sound entries) (missing : entries.lookup key = none) (value : v.Sound) :
    Sound (entries ++ [(key, v)]) := by
  refine ⟨?_, fun entry mem => ?_⟩
  · rw [List.map_append, List.nodup_append]
    refine ⟨sound.distinct, List.pairwise_singleton _ _, fun first mem second single eq => ?_⟩
    obtain ⟨entry, among, rfl⟩ := List.mem_map.1 mem
    rw [List.mem_singleton.1 single] at eq
    exact bne_iff_ne.1 (List.lookup_eq_none_iff.1 missing entry among) eq.symm
  · rcases List.mem_append.1 mem with mem | mem
    · exact sound.each entry mem
    · rwa [List.mem_singleton.1 mem]

lemma add? (value : v.Sound) : Keeps (Entries.add? key v) := by
  intro entries entries' sound added
  unfold Entries.add? at added
  split at added
  · cases added
  · next missing =>
    cases added
    exact sound.append (Option.not_isSome_iff_eq_none.1 missing) value

lemma set (sound : Sound entries) (value : v.Sound) : Sound (entries.set key v) := by
  have keys : (entries.set key v).map Prod.fst = entries.map Prod.fst := by
    rw [Entries.set, List.map_map]
    refine List.map_congr_left fun entry _ => ?_
    show (if entry.1 = key then (entry.1, v) else (entry.1, entry.2)).1 = entry.1
    split <;> rfl
  refine ⟨keys ▸ sound.distinct, fun entry mem => ?_⟩
  obtain ⟨old, among, rfl⟩ := List.mem_map.1 mem
  dsimp only
  split
  · exact value
  · exact sound.each old among

lemma remove (sound : Sound entries) (key : String) : Sound (entries.remove key) :=
  ⟨sound.distinct.sublist ((List.filter_sublist).map _),
    fun entry mem => sound.each entry (List.mem_filter.1 mem).1⟩

end Sound

/-- A change under a path of headers spoils nothing if it spoils nothing where they lead. -/
lemma keeps_underHeaders {change : Entries → Option Entries} (keeps : Keeps change) :
    ∀ path, Keeps (underHeaders change path) := by
  intro path
  induction path with
  | nil => exact keeps
  | cons first path ih =>
    intro entries entries' sound changed
    unfold underHeaders at changed
    split at changed
    · next missing =>
      obtain ⟨inner, below, eq⟩ := Option.bind_eq_some_iff.1 changed
      cases eq
      exact sound.append missing (.of_entries (ih _ _ .nil below))
    · next origin inner there =>
      split at changed
      · cases changed
      · obtain ⟨inner', below, eq⟩ := Option.bind_eq_some_iff.1 changed
        cases eq
        exact sound.set (.of_entries (ih _ _ (sound.of_lookup there).of_table below))
    · next all there =>
      split at changed
      · next last final =>
        obtain ⟨inner', below, eq⟩ := Option.bind_eq_some_iff.1 changed
        cases eq
        have tables := sound.of_lookup there
        have among := List.mem_of_getLast? final
        exact sound.set (tables.last (ih _ _ (tables.of_tables among) below))
      · cases changed
    · cases changed

lemma keeps_addDotted {grown : Origin} (value : v.Sound) :
    ∀ path origin, Keeps (addDotted grown key v origin path) := by
  intro path
  induction path with
  | nil => exact fun _ => Sound.add? value
  | cons first path ih =>
    intro origin entries entries' sound changed
    unfold addDotted at changed
    split at changed
    · next missing =>
      obtain ⟨inner, below, eq⟩ := Option.bind_eq_some_iff.1 changed
      cases eq
      exact sound.append missing (.of_entries (ih _ _ _ .nil below))
    · next inner entriesOf there =>
      split at changed
      · obtain ⟨inner', below, eq⟩ := Option.bind_eq_some_iff.1 changed
        cases eq
        exact sound.set (.of_entries (ih _ _ _ (sound.of_lookup there).of_table below))
      · cases changed
    · next all there =>
      split at changed
      · next last final =>
        split at changed
        · obtain ⟨inner', below, eq⟩ := Option.bind_eq_some_iff.1 changed
          cases eq
          have tables := sound.of_lookup there
          have among := List.mem_of_getLast? final
          exact sound.set (tables.last (ih _ _ _ (tables.of_tables among) below))
        · cases changed
      · cases changed
    · cases changed

end Entries

/-! ### Documents that grow -/

namespace Draft

open Entries (Keeps)

variable {draft draft' : Draft} {entries start : Entries} {path : List String} {key : String}

/-- What has been read so far is sound. -/
structure Sound (draft : Draft) : Prop where
  done : Entries.Sound draft.done
  current : Entries.Sound draft.current

lemma Sound.close (sound : draft.Sound) (closed : draft.close = some entries) :
    Entries.Sound entries := by
  unfold Draft.close at closed
  split at closed
  · cases closed
    exact sound.current
  · exact Entries.keeps_underHeaders (Entries.Sound.add? (.of_entries sound.current)) _ _ _
      sound.done closed
  · next path key _ =>
    -- the table at hand joins those that stand under its header, or is the first of them
    refine Entries.keeps_underHeaders (fun inner inner' sound' changed => ?_) _ _ _ sound.done
      closed
    split at changed
    · refine Entries.Sound.add? (.of_all fun entries mem => ?_) _ _ sound' changed
      rw [List.mem_singleton.1 mem]
      exact sound.current
    · next all there =>
      cases changed
      refine sound'.set (.of_all fun entries mem => ?_)
      rcases List.mem_append.1 mem with mem | mem
      · exact (sound'.of_lookup there).of_tables mem
      · rw [List.mem_singleton.1 mem]
        exact sound.current
    · cases changed

lemma sound_startOf? (sound : Entries.Sound entries)
    (found : startOf? key path entries = some start) : Entries.Sound start := by
  induction path generalizing entries with
  | nil =>
    unfold startOf? definable? at found
    split at found
    · cases found
      exact .nil
    · next inner there =>
      cases found
      exact (sound.of_lookup there).of_table
    · cases found
  | cons first path ih =>
    unfold startOf? at found
    split at found
    · cases found
      exact .nil
    · next there => exact ih (sound.of_lookup there).of_table found
    · next all there =>
      obtain ⟨last, final, found⟩ := Option.bind_eq_some_iff.1 found
      exact ih ((sound.of_lookup there).of_tables (List.mem_of_getLast? final)) found
    · cases found

lemma Sound.openHeader (sound : draft.Sound) (opened : draft.openHeader path key = some draft') :
    draft'.Sound := by
  obtain ⟨entries, closed, opened⟩ := Option.bind_eq_some_iff.1 opened
  obtain ⟨done, removed, opened⟩ := Option.bind_eq_some_iff.1 opened
  obtain ⟨start, found, eq⟩ := Option.bind_eq_some_iff.1 opened
  cases eq
  have whole := sound.close closed
  have keeps : Keeps fun entries => some (entries.remove key) := by
    intro inner inner' sound' eq
    cases eq
    exact sound'.remove key
  exact ⟨Entries.keeps_underHeaders keeps _ _ _ whole removed, sound_startOf? whole found⟩

lemma Sound.openTables (sound : draft.Sound) (opened : draft.openTables path key = some draft') :
    draft'.Sound := by
  obtain ⟨entries, closed, eq⟩ := Option.bind_eq_some_iff.1 opened
  cases eq
  exact ⟨sound.close closed, .nil⟩

lemma Sound.addPair {v : Value} (sound : draft.Sound) (value : v.Sound)
    (added : draft.addPair path key v = some draft') : draft'.Sound := by
  obtain ⟨current, grown, eq⟩ := Option.bind_eq_some_iff.1 added
  cases eq
  exact ⟨sound.done, Entries.keeps_addDotted value _ _ _ _ sound.current grown⟩

end Draft

/-! ### Scans -/

/-- The values that a scan makes are sound. -/
def MakesSound (scan : Scan Value) : Prop := ∀ cs v rest, scan cs = some (v, rest) → v.Sound

section Numbers

variable {negative : Bool} {size : Nat} {cs rest : List Char} {v : Value}

lemma limit_eq : Int.pow 2 63 = (Nat.pow 2 63 : Nat) := (Int.natCast_pow 2 63).symm

lemma sound_integer? (made : integer? negative size = some v) : v.Sound := by
  have limit := limit_eq
  unfold integer? at made
  split at made
  · split at made
    · cases made
      refine .integer ⟨?_, ?_⟩
      · show -Int.pow 2 63 ≤ -(size : Int)
        omega
      · show -(size : Int) ≤ Int.pow 2 63 - 1
        have : 0 < Nat.pow 2 63 := by decide
        omega
    · cases made
  · split at made
    · cases made
      refine .integer ⟨?_, ?_⟩
      · show -Int.pow 2 63 ≤ (size : Int)
        omega
      · show (size : Int) ≤ Int.pow 2 63 - 1
        omega
    · cases made

lemma sound_float? {whole fraction : List Char} {exponent : Bool × List Char}
    (made : float? negative whole fraction exponent = some v) : v.Sound := by
  unfold float? at made
  dsimp only at made
  generalize nearestFloat _ _ = x at made
  split at made
  · cases made
    exact .float
  · split at made
    · cases made
    · cases made
      exact .float

lemma sound_decimal (read : decimal negative cs = some (v, rest)) : v.Sound := by
  obtain ⟨⟨whole, behind⟩, -, read⟩ := Option.bind_eq_some_iff.1 read
  dsimp only at read
  split at read
  · obtain ⟨_, -, read⟩ := Option.bind_eq_some_iff.1 read
    obtain ⟨_, -, read⟩ := Option.bind_eq_some_iff.1 read
    obtain ⟨_, made, eq⟩ := Option.bind_eq_some_iff.1 read
    cases eq
    exact sound_float? made
  · obtain ⟨⟨exponent, end_⟩, -, read⟩ := Option.bind_eq_some_iff.1 read
    cases exponent with
    | some exponent =>
      obtain ⟨_, made, eq⟩ := Option.bind_eq_some_iff.1 read
      cases eq
      exact sound_float? made
    | none =>
      obtain ⟨_, made, eq⟩ := Option.bind_eq_some_iff.1 read
      cases eq
      exact sound_integer? made

lemma sound_based {base : Nat} {isDigit : Char → Bool}
    (read : based base isDigit cs = some (v, rest)) : v.Sound := by
  obtain ⟨_, -, read⟩ := Option.bind_eq_some_iff.1 read
  obtain ⟨_, made, eq⟩ := Option.bind_eq_some_iff.1 read
  cases eq
  exact sound_integer? made

lemma sound_special (read : special negative cs = some (v, rest)) : v.Sound := by
  unfold special at read
  split at read
  · cases read
    exact .float
  · cases read
    exact .float
  · cases read

lemma makesSound_number : MakesSound number := by
  intro cs v rest read
  unfold number at read
  split at read
  · exact sound_based read
  · exact sound_based read
  · exact sound_based read
  · rcases Option.or_eq_some_iff.1 read with read | ⟨-, read⟩
    · exact sound_special read
    · exact sound_decimal read

lemma makesSound_moment : MakesSound moment := by
  intro cs v rest read
  unfold moment at read
  split at read
  · cases read
    exact .moment
  · obtain ⟨_, -, eq⟩ := Option.map_eq_some_iff.1 read
    cases eq
    exact .moment

end Numbers

section Nested

variable {item : Scan Value} {cs rest : List Char} {rounds : Nat}

lemma sound_items (makes : MakesSound item) {values : List Value}
    (read : items item rounds cs = some (values, rest)) : ∀ v ∈ values, v.Sound := by
  induction rounds generalizing cs values rest with
  | zero => cases read
  | succ rounds ih =>
    unfold items at read
    split at read
    · cases read
      exact List.forall_mem_nil _
    · obtain ⟨⟨first, behind⟩, one, read⟩ := Option.bind_eq_some_iff.1 read
      dsimp only at read
      split at read
      · obtain ⟨⟨more, _⟩, further, eq⟩ := Option.bind_eq_some_iff.1 read
        cases eq
        exact List.forall_mem_cons.2 ⟨makes _ _ _ one, ih further⟩
      · cases read
        exact List.forall_mem_cons.2 ⟨makes _ _ _ one, List.forall_mem_nil _⟩
      · cases read

lemma sound_members (makes : MakesSound item) {entries entries' : Entries}
    (sound : Entries.Sound entries)
    (read : members item rounds entries cs = some (entries', rest)) : Entries.Sound entries' := by
  induction rounds generalizing cs entries rest with
  | zero => cases read
  | succ rounds ih =>
    obtain ⟨⟨⟨path, key⟩, _⟩, -, read⟩ := Option.bind_eq_some_iff.1 read
    obtain ⟨_, -, read⟩ := Option.bind_eq_some_iff.1 read
    obtain ⟨⟨v, _⟩, one, read⟩ := Option.bind_eq_some_iff.1 read
    obtain ⟨grown, added, read⟩ := Option.bind_eq_some_iff.1 read
    have sound' := Entries.keeps_addDotted (makes _ _ _ one) _ _ _ _ sound added
    split at read
    · exact ih sound' read
    · cases read
      exact sound'
    · cases read

lemma makesSound_inlineTable (makes : MakesSound item) : MakesSound (inlineTable item) := by
  intro cs v rest read
  unfold inlineTable at read
  split at read
  · cases read
    exact .of_entries .nil
  · obtain ⟨⟨entries, _⟩, inside, eq⟩ := Option.bind_eq_some_iff.1 read
    cases eq
    exact .of_entries (sound_members makes .nil inside)

end Nested

/-- The recursion is that of the values: those inside may be nested less deep. -/
lemma makesSound_value (depth : Nat) : MakesSound (value depth) := by
  intro cs v rest read
  unfold value at read
  split at read
  · cases read
  · split at read
    · obtain ⟨_, -, eq⟩ := Option.bind_eq_some_iff.1 read
      cases eq
      exact .text
    · split at read
      · split at read
        · cases read
        · next depth =>
          obtain ⟨_, inside, eq⟩ := Option.bind_eq_some_iff.1 read
          cases eq
          exact .array (sound_items (makesSound_value depth) inside)
      · split at read
        · split at read
          · cases read
          · next depth => exact makesSound_inlineTable (makesSound_value depth) _ _ _ read
        · split at read
          · cases read
            exact .boolean
          · cases read
            exact .boolean
          · rcases Option.or_eq_some_iff.1 read with read | ⟨-, read⟩
            · exact makesSound_moment _ _ _ read
            · exact makesSound_number _ _ _ read

/-! ### Documents -/

section Lines

variable {draft draft' : Draft} {cs rest : List Char} {rounds : Nat}

lemma sound_pairLine (sound : draft.Sound) (read : pairLine draft cs = some (draft', rest)) :
    draft'.Sound := by
  obtain ⟨⟨⟨path, key⟩, _⟩, -, read⟩ := Option.bind_eq_some_iff.1 read
  obtain ⟨_, -, read⟩ := Option.bind_eq_some_iff.1 read
  obtain ⟨⟨v, _⟩, one, read⟩ := Option.bind_eq_some_iff.1 read
  obtain ⟨_, added, read⟩ := Option.bind_eq_some_iff.1 read
  obtain ⟨_, -, eq⟩ := Option.bind_eq_some_iff.1 read
  cases eq
  exact sound.addPair (makesSound_value _ _ _ _ one) added

lemma sound_headerLine (sound : draft.Sound) (read : headerLine draft cs = some (draft', rest)) :
    draft'.Sound := by
  unfold headerLine at read
  split at read
  · obtain ⟨⟨⟨path, key⟩, _⟩, -, read⟩ := Option.bind_eq_some_iff.1 read
    obtain ⟨_, -, read⟩ := Option.bind_eq_some_iff.1 read
    obtain ⟨_, -, read⟩ := Option.bind_eq_some_iff.1 read
    obtain ⟨_, opened, read⟩ := Option.bind_eq_some_iff.1 read
    obtain ⟨_, -, eq⟩ := Option.bind_eq_some_iff.1 read
    cases eq
    exact sound.openTables opened
  · obtain ⟨⟨⟨path, key⟩, _⟩, -, read⟩ := Option.bind_eq_some_iff.1 read
    obtain ⟨_, -, read⟩ := Option.bind_eq_some_iff.1 read
    obtain ⟨_, opened, read⟩ := Option.bind_eq_some_iff.1 read
    obtain ⟨_, -, eq⟩ := Option.bind_eq_some_iff.1 read
    cases eq
    exact sound.openHeader opened

lemma sound_documentLines (sound : draft.Sound)
    (read : documentLines rounds draft cs = some draft') : draft'.Sound := by
  induction rounds generalizing draft cs with
  | zero =>
    unfold documentLines at read
    split at read
    · cases read
      exact sound
    · cases read
  | succ rounds ih =>
    unfold documentLines at read
    split at read
    · cases read
      exact sound
    · obtain ⟨_, -, read⟩ := Option.bind_eq_some_iff.1 read
      exact ih sound read
    · obtain ⟨⟨_, _⟩, header, read⟩ := Option.bind_eq_some_iff.1 read
      exact ih (sound_headerLine sound header) read
    · split at read
      · exact ih sound read
      · obtain ⟨⟨_, _⟩, pair, read⟩ := Option.bind_eq_some_iff.1 read
        exact ih (sound_pairLine sound pair) read

end Lines

/-- **What a document stands for is sound.** In every table of it a key stands once, and every whole
number of it fits 64 bits with a sign. -/
theorem sound_document {text : String} {entries : Entries} (read : document text = some entries) :
    Entries.Sound entries := by
  obtain ⟨draft, lines, closed⟩ := Option.bind_eq_some_iff.1 read
  have start : Draft.Sound {} := ⟨.nil, .nil⟩
  exact (sound_documentLines start lines).close closed

end TunnelKeeper.Toml
