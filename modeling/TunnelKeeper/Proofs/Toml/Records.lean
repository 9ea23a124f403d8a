import TunnelKeeper.Proofs.Toml.Documents
import TunnelKeeper.Toml.Decode

/-!
Records come back from the documents they are written as. A table is read by its keys: their order
does not matter, a key that the record does not know is passed over, and a field whose key is not
there takes its fallback.
-/

namespace TunnelKeeper.Toml

open Record (Fault Scalar ScalarShape Shape Field FieldShape Datum FlatShape RecordShape Payload)

section Table

variable {σ δ : Type} (readField : σ → Value → Except Fault δ)

/-- What a field takes from a table where it has the value `v`, or none. -/
def Takes (field : Field σ δ) (v : Option Value) (d : δ) : Prop :=
  match v with
  | none => field.fallback = some d
  | some v => readField field.shape v = .ok d

/-- The keys that a record knows are read, wherever they stand. -/
lemma readEntries_lookup {shape : Shape σ δ} {entries : Entries}
    (reads : ∀ entry ∈ entries, ∀ field, shape.field? entry.1 = some field →
      ∃ d, readField field.shape entry.2 = .ok d) :
    ∃ found, readEntries readField shape entries = .ok found ∧
      ∀ field, shape.field? field.key = some field → found.lookup field.key =
        (entries.lookup field.key).bind fun v => (readField field.shape v).toOption := by
  induction entries with
  | nil => exact ⟨[], rfl, fun _ _ => rfl⟩
  | cons entry entries ih =>
    obtain ⟨key, v⟩ := entry
    obtain ⟨found, ok, lookups⟩ := ih fun entry mem => reads entry (List.mem_cons_of_mem _ mem)
    cases known : shape.field? key with
    | none =>
      refine ⟨found, by rw [readEntries, known, ok], fun field named => ?_⟩
      have other : field.key ≠ key := by
        intro eq
        rw [eq, known] at named
        cases named
      rw [lookups field named, List.lookup_cons, beq_eq_false_iff_ne.2 other]
    | some here =>
      obtain ⟨d, read⟩ : ∃ d, readField here.shape v = .ok d :=
        reads (key, v) List.mem_cons_self here known
      have more : readEntries readField shape ((key, v) :: entries) = .ok ((key, d) :: found) := by
        simp only [readEntries, known, read, ok]
        rfl
      refine ⟨(key, d) :: found, more, fun field named => ?_⟩
      rw [List.lookup_cons, List.lookup_cons]
      by_cases eq : field.key = key
      · rw [eq, known] at named
        obtain rfl := Option.some.inj named
        simp [eq, read, Except.toOption]
      · rw [beq_eq_false_iff_ne.2 eq, lookups field named]

lemma complete_eq {fields : List (Field σ δ)} {data : List δ} {found : List (String × δ)}
    (length : data.length = fields.length)
    (all : ∀ pair ∈ fields.zip data,
      (found.lookup pair.1.key).or pair.1.fallback = some pair.2) :
    Record.complete fields found = .ok data := by
  induction fields generalizing data with
  | nil =>
    obtain rfl := List.length_eq_zero_iff.1 length
    rfl
  | cons field fields ih =>
    obtain ⟨d, data, rfl⟩ := List.exists_cons_of_length_eq_add_one length
    rw [Record.complete, all (field, d) List.mem_cons_self,
      ih (Nat.succ.inj length) fun pair mem => all pair (List.mem_cons_of_mem _ mem)]
    rfl

lemma field?_of_mem {shape : Shape σ δ} (distinct : (shape.fields.map (·.key)).Nodup)
    {field : Field σ δ} (mem : field ∈ shape.fields) : shape.field? field.key = some field := by
  unfold Shape.field?
  generalize shape.fields = fields at distinct mem
  induction fields with
  | nil => cases mem
  | cons first fields ih =>
    rw [List.map_cons, List.nodup_cons] at distinct
    rcases List.mem_cons.1 mem with rfl | mem
    · exact List.find?_cons_of_pos (decide_eq_true rfl)
    · have other : first.key ≠ field.key := fun eq =>
        distinct.1 (List.mem_map.2 ⟨field, mem, eq.symm⟩)
      rw [List.find?_cons_of_neg (by simpa using other)]
      exact ih distinct.2 mem

lemma exists_mem_zip {fields : List (Field σ δ)} {data : List δ}
    (length : data.length = fields.length) {field : Field σ δ} (mem : field ∈ fields) :
    ∃ d, (field, d) ∈ fields.zip data := by
  rw [← List.map_fst_zip (Nat.le_of_eq length.symm)] at mem
  obtain ⟨⟨field, d⟩, pair, rfl⟩ := List.mem_map.1 mem
  exact ⟨d, pair⟩

lemma readRecord_table {shape : Shape σ δ} {origin : Origin} {entries : Entries} {data : List δ}
    (distinct : (shape.fields.map (·.key)).Nodup) (length : data.length = shape.fields.length)
    (single : ∀ entry ∈ entries, entries.lookup entry.1 = some entry.2)
    (takes : ∀ pair ∈ shape.fields.zip data,
      Takes readField pair.1 (entries.lookup pair.1.key) pair.2) :
    readRecord readField shape (.table origin entries) = .ok data := by
  have reads : ∀ entry ∈ entries, ∀ field, shape.field? entry.1 = some field →
      ∃ d, readField field.shape entry.2 = .ok d := by
    intro entry mem field known
    obtain ⟨d, pair⟩ := exists_mem_zip length (List.mem_of_find?_eq_some known)
    have key : field.key = entry.1 := by simpa using List.find?_some known
    have taken := takes _ pair
    rw [key, single entry mem] at taken
    exact ⟨d, taken⟩
  obtain ⟨found, ok, lookups⟩ := readEntries_lookup readField reads
  have all : ∀ pair ∈ shape.fields.zip data,
      (found.lookup pair.1.key).or pair.1.fallback = some pair.2 := by
    intro pair mem
    have taken := takes pair mem
    rw [lookups pair.1 (field?_of_mem distinct (List.of_mem_zip mem).1)]
    cases there : entries.lookup pair.1.key with
    | none =>
      rw [there] at taken
      exact taken
    | some v =>
      rw [there] at taken
      have read : readField pair.1.shape v = .ok pair.2 := taken
      simp [read, Except.toOption]
  rw [readRecord, ok]
  exact complete_eq length all

end Table

/-! ### Written data -/

/-- A scalar that its field takes back from where it was written. A scalar that is none is not
written, so the field must be `optional`: one that falls back to none. Timestamps are left out. -/
structure FitsScalar (shape : ScalarShape) (optional : Prop) (s : Scalar) : Prop where
  fits : shape.Fits s
  timeless : shape ≠ .timestamp
  missing : s = .none → optional

lemma FitsScalar.read {shape : ScalarShape} {optional : Prop} {s : Scalar}
    (apt : FitsScalar shape optional s) :
    valueOf? s = none ∧ s = .none ∧ optional ∨
      ∃ v, valueOf? s = some v ∧ readScalar shape v = .ok s := by
  obtain ⟨fits, timeless, missing⟩ := apt
  cases s with
  | none => exact .inl ⟨rfl, rfl, missing rfl⟩
  | text s =>
    refine .inr ⟨_, rfl, ?_⟩
    cases shape with
    | text => rfl
    | optionalText => rfl
    | _ => cases fits
  | integer i =>
    refine .inr ⟨_, rfl, ?_⟩
    cases shape with
    | integer range => exact congrArg (Except.map Scalar.integer) (if_pos fits)
    | _ => cases fits
  | timestamp t =>
    cases shape with
    | timestamp => exact absurd rfl timeless
    | _ => cases fits

/-- The values of a record of scalars. -/
structure FitsRecord (record : FlatShape) (values : List Scalar) : Prop where
  length : values.length = record.fields.length
  each : ∀ pair ∈ record.fields.zip values,
    FitsScalar pair.1.shape (pair.1.fallback = some .none) pair.2

/-- What a field of a record holds. -/
inductive FitsField : Field FieldShape Datum → Datum → Prop where
  | scalar {key : String} {shape : ScalarShape} {fallback : Option Datum} {s : Scalar}
    (apt : FitsScalar shape (fallback = some (.scalar .none)) s) :
    FitsField ⟨key, .scalar shape, fallback⟩ (.scalar s)
  | record {key : String} {shape : FlatShape} {fallback : Option Datum} {values : List Scalar}
    (apt : FitsRecord shape values) : FitsField ⟨key, .record shape, fallback⟩ (.record values)

lemma FitsRecord.read {record : FlatShape} {values : List Scalar} (apt : FitsRecord record values)
    (distinct : (record.fields.map (·.key)).Nodup) (origin : Origin) :
    readRecord readScalar record
      (.table origin (present (record.fields.map (·.key)) (values.map valueOf?))) = .ok values := by
  refine readRecord_table readScalar distinct apt.length (fun entry mem => ?_) fun pair mem => ?_
  · exact lookup_present distinct (mem_present.1 mem)
  · rw [lookup_present distinct (mem_zip_keys mem valueOf?)]
    rcases (apt.each pair mem).read with ⟨none, gone, optional⟩ | ⟨v, some, read⟩
    · rw [none, gone]
      exact optional
    · rw [some]
      exact read

lemma zip_tables {fields : List (Field FieldShape Datum)} {data : List Datum}
    (length : data.length = fields.length) :
    (fields.map (·.key)).zip ((fields.zip data).map tableOf?) =
      (fields.zip data).map fun pair => (pair.1.key, tableOf? pair) := by
  rw [← keys_zip length]
  exact List.zip_map' ..

lemma mem_zip_tables {fields : List (Field FieldShape Datum)} {data : List Datum}
    (length : data.length = fields.length) {pair : Field FieldShape Datum × Datum}
    (mem : pair ∈ fields.zip data) :
    (pair.1.key, tableOf? pair) ∈ (fields.map (·.key)).zip ((fields.zip data).map tableOf?) := by
  rw [zip_tables length]
  exact List.mem_map_of_mem mem

/-- Each field is found under its key, as a scalar or as a table. -/
lemma lookup_entriesOf {shape : RecordShape} {data : List Datum} (tidy : TidyShape shape)
    (length : data.length = shape.fields.length)
    {pair : Field FieldShape Datum × Datum} (mem : pair ∈ shape.fields.zip data) :
    (entriesOf shape data).lookup pair.1.key =
      (valueOf? (scalarOf pair.2)).or (tableOf? pair) := by
  have scalar := mem_zip_keys mem fun datum => valueOf? (scalarOf datum)
  rw [entriesOf, List.lookup_append, lookup_present tidy.keys.distinct scalar,
    lookup_present tidy.keys.distinct (mem_zip_tables length mem)]

lemma lookup_of_mem_entriesOf {shape : RecordShape} {data : List Datum} (tidy : TidyShape shape)
    (length : data.length = shape.fields.length) {entry : String × Value}
    (mem : entry ∈ entriesOf shape data) :
    (entriesOf shape data).lookup entry.1 = some entry.2 := by
  rcases List.mem_append.1 mem with mem | mem
  · have there := mem_present.1 mem
    rw [zip_keys] at there
    obtain ⟨pair, mem, eq⟩ := List.mem_map.1 there
    obtain ⟨key, value⟩ := Prod.mk.inj eq
    rw [← key, lookup_entriesOf tidy length mem, value, Option.some_or]
  · have there := mem_present.1 mem
    rw [zip_tables length] at there
    obtain ⟨pair, mem, eq⟩ := List.mem_map.1 there
    obtain ⟨key, value⟩ := Prod.mk.inj eq
    rw [← key, lookup_entriesOf tidy length mem, value,
      scalarOf_of_table (by rw [value]; nofun), Option.none_or]

/-- The data of a record is read back from the table it is written as. -/
lemma readRecord_entriesOf {shape : RecordShape} {data : List Datum} (tidy : TidyShape shape)
    (length : data.length = shape.fields.length)
    (each : ∀ pair ∈ shape.fields.zip data, FitsField pair.1 pair.2) :
    readRecord readField shape (.table .header (entriesOf shape data)) = .ok data := by
  refine readRecord_table readField tidy.keys.distinct length
    (fun entry mem => lookup_of_mem_entriesOf tidy length mem) fun pair mem => ?_
  rw [lookup_entriesOf tidy length mem]
  have inner := tidy.inner pair.1 (List.of_mem_zip mem).1
  have apt := each pair mem
  obtain ⟨field, datum⟩ := pair
  cases apt with
  | scalar apt =>
    rcases apt.read with ⟨-, rfl, optional⟩ | ⟨v, some, read⟩
    · exact optional
    · rw [scalarOf, some, Option.some_or]
      exact congrArg (Except.map Datum.scalar) read
  | record apt => exact congrArg (Except.map Datum.record) (apt.read (inner _ rfl).distinct .header)

/-- What is written for a value is decoded as the value that its data stands for: a type may keep
less in its data than in its values. -/
theorem decode_encode {α : Type} [Payload α] {value value' : α} {text : String}
    (tidy : TidyShape (Payload.shape α))
    (length : (Payload.toData value).length = (Payload.shape α).fields.length)
    (each : ∀ pair ∈ (Payload.shape α).fields.zip (Payload.toData value), FitsField pair.1 pair.2)
    (bounded : ∀ datum ∈ Payload.toData value, ∀ s ∈ scalarsOf datum, NotBelow s)
    (back : Payload.ofData? (Payload.toData value) = some value')
    (written : encode value = .ok text) : decode α text = .ok value' := by
  have table := document_dataText tidy length bounded written
  have data := readRecord_entriesOf tidy length each
  simp only [decode, table, data, back]

end TunnelKeeper.Toml
