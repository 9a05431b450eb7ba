import Bookshop.Proofs.Wire.Members

/-!
# What values read as

A codec writes a value as a well-formed tree and reads that tree as a value, which may be another
one: a number can come back rounded. It keeps the value when it is the same one. What the parts of a
value read as settles what the value reads as: there is one lemma for each way to build codecs. The
bytes of a value are read as the tree is.
-/

namespace Bookshop

namespace Codec

/-- The codec writes the value as a well-formed tree and reads that as the result. -/
structure ReadsAs (codec : Codec α) (value result : α) : Prop where
  wellFormed : (codec.encode value).WellFormed
  decode_encode : codec.decode (codec.encode value) = .ok result

/-- **Reading what was written.** The bytes of a value are read as the result. -/
theorem ReadsAs.read_write {codec : Codec α} {value result : α}
    (h : codec.ReadsAs value result) : codec.read (codec.write value) = .ok result := by
  simp only [read, write, Json.read_spell h.wellFormed, h.decode_encode, if_true]

/-- The codec writes the value as a well-formed tree and reads it back. -/
structure ReadsBack (codec : Codec α) (value : α) : Prop where
  wellFormed : (codec.encode value).WellFormed
  decode_encode : codec.decode (codec.encode value) = .ok value

theorem ReadsBack.readsAs {codec : Codec α} {value : α} (h : codec.ReadsBack value) :
    codec.ReadsAs value value := ⟨h.wellFormed, h.decode_encode⟩

theorem ReadsAs.readsBack {codec : Codec α} {value : α} (h : codec.ReadsAs value value) :
    codec.ReadsBack value := ⟨h.wellFormed, h.decode_encode⟩

/-- **Round trip.** The bytes of a kept value are read as that value. -/
theorem ReadsBack.read_write {codec : Codec α} {value : α} (h : codec.ReadsBack value) :
    codec.read (codec.write value) = .ok value := h.readsAs.read_write

end Codec

/-! ### Words -/

theorem Numeral.ofWord_wellFormed (word : Int64) : (Numeral.ofWord word).WellFormed where
  whole_lt _ hd := lt_of_mem_digits hd
  fraction_lt _ hd := nomatch hd
  leading := digits_leading _

@[simp] theorem Numeral.toWord?_ofWord (word : Int64) :
    (Numeral.ofWord word).toWord? = some word := by
  simp only [Numeral.toWord?, Numeral.ofWord, List.isEmpty_nil, Option.isNone_none, Bool.and_self,
    if_true, ofDigits_digits]
  by_cases hnegative : word.toInt < 0
  · have hmagnitude : ¬ word.toInt.natAbs = 0 := by omega
    have hvalue : -(word.toInt.natAbs : Int) = word.toInt := by omega
    simp only [hnegative, decide_true, if_true, if_neg hmagnitude, hvalue, fit?_toInt]
  · have hvalue : (word.toInt.natAbs : Int) = word.toInt := by omega
    simp only [hnegative, decide_false, Bool.false_eq_true, if_false, hvalue, fit?_toInt]

namespace Codec

/-! ### Simple values and lists -/

theorem text_readsBack (value : String) : text.ReadsBack value where
  wellFormed := Json.rawString_ofText value
  decode_encode := by simp only [text, Json.text, Quoted.toText?_ofText]

theorem word_readsBack (value : Int64) : word.ReadsBack value where
  wellFormed := Numeral.ofWord_wellFormed value
  decode_encode := by simp only [word, Json.word, Numeral.toWord?_ofWord]

theorem bool_readsBack (value : Bool) : bool.ReadsBack value := ⟨trivial, rfl⟩

theorem double_readsAs {value result : Binary64} {numeral : Numeral}
    (hspelled : Numeral.ofBinary64? value = some numeral) (hnumeral : numeral.WellFormed)
    (hread : numeral.toBinary64? = some result) : double.ReadsAs value result where
  wellFormed := by
    simp only [double, Json.double, hspelled]
    exact hnumeral
  decode_encode := by simp only [double, Json.double, hspelled, hread]

theorem double_readsBack {value : Binary64} {numeral : Numeral}
    (hspelled : Numeral.ofBinary64? value = some numeral) (hnumeral : numeral.WellFormed)
    (hread : numeral.toBinary64? = some value) : double.ReadsBack value :=
  (double_readsAs hspelled hnumeral hread).readsBack

theorem convert_readsAs {codec : Codec α} {out : β → α} {of : α → Except DecodeError β}
    {value kept : β} {result : α} (h : codec.ReadsAs (out value) result)
    (hof : of result = .ok kept) : (codec.convert out of).ReadsAs value kept where
  wellFormed := h.wellFormed
  decode_encode := by simp only [convert, h.decode_encode, hof]

theorem convert_readsBack {codec : Codec α} {out : β → α} {of : α → Except DecodeError β}
    {value : β} (h : codec.ReadsBack (out value)) (hof : of (out value) = .ok value) :
    (codec.convert out of).ReadsBack value :=
  (convert_readsAs h.readsAs hof).readsBack

/-- What is read through another type is read as what that makes of it. -/
theorem read_convert {codec : Codec α} {out : β → α} {of : α → Except DecodeError β}
    {bytes : Bytes} {value : α} {result : β} (h : codec.read bytes = .ok value)
    (hof : of value = .ok result) : (codec.convert out of).read bytes = .ok result := by
  unfold read at h ⊢
  simp only [convert] at h ⊢
  cases hdecode : codec.decode (Json.read bytes).tree with
  | error e => simp [hdecode] at h
  | ok found =>
    simp only [hdecode] at h ⊢
    split at h
    · next hcomplete =>
      cases h
      simp only [hof, hcomplete, if_true]
    · cases h

theorem decodeItems_encode {codec : Codec α} (kept : α → α) {values : List α}
    (h : ∀ value ∈ values, codec.ReadsAs value (kept value)) :
    codec.decodeItems (values.map codec.encode) = .ok (values.map kept) := by
  induction values with
  | nil => rfl
  | cons value values ih =>
    have hvalue := h value (by simp)
    have hvalues := ih fun other hother => h other (by simp [hother])
    simp only [List.map_cons, decodeItems, hvalue.decode_encode, hvalues]

theorem list_readsAs {codec : Codec α} (kept : α → α) {values : List α}
    (h : ∀ value ∈ values, codec.ReadsAs value (kept value)) :
    codec.list.ReadsAs values (values.map kept) where
  wellFormed := by
    refine ⟨rfl, Json.itemsWellFormed_iff.2 ?_⟩
    intro item hitem
    obtain ⟨value, hvalue, rfl⟩ := List.mem_map.1 hitem
    exact (h value hvalue).wellFormed
  decode_encode := by simp only [list, decodeItems_encode kept h, if_true]

theorem list_readsBack {codec : Codec α} {values : List α}
    (h : ∀ value ∈ values, codec.ReadsBack value) : codec.list.ReadsBack values := by
  have hread := list_readsAs id fun value hvalue => (h value hvalue).readsAs
  rw [List.map_id] at hread
  exact hread.readsBack

/-! ### Optional values and choices -/

theorem optional_decode (codec : Codec α) {json : Json} {value : α} (hne : json ≠ .null)
    (h : codec.decode json = .ok value) : codec.optional.decode json = .ok (some value) := by
  cases json with
  | null => exact absurd rfl hne
  | _ => simp only [optional, h]

/-- A value is told from none by not being written as null. -/
theorem optional_readsBack {codec : Codec α} {value? : Option α}
    (h : ∀ value, value? = some value → codec.ReadsBack value ∧ codec.encode value ≠ .null) :
    codec.optional.ReadsBack value? := by
  cases value? with
  | none => exact ⟨trivial, rfl⟩
  | some value =>
    obtain ⟨hvalue, hne⟩ := h value rfl
    exact ⟨hvalue.wellFormed, optional_decode codec hne hvalue.decode_encode⟩

theorem optional_text_readsBack (value? : Option String) : text.optional.ReadsBack value? :=
  optional_readsBack fun value _ => ⟨text_readsBack value, nofun⟩

theorem lookup_of_mem {choices : List (String × α)} (hnames : (choices.map Prod.fst).Nodup)
    {choice : String × α} (h : choice ∈ choices) : choices.lookup choice.1 = some choice.2 := by
  obtain ⟨before, after, rfl⟩ := List.append_of_mem h
  rw [List.map_append, List.map_cons] at hnames
  have hbefore := (List.nodup_append.1 hnames).2.2
  rw [List.lookup_eq_some_iff]
  refine ⟨before, after, rfl, ?_⟩
  intro other hother
  have hne := hbefore other.1 (List.mem_map_of_mem hother) choice.1 List.mem_cons_self
  simpa using hne.symm

/-- A choice with a name of its own is kept by that name. -/
theorem choice_readsBack [DecidableEq α] {choices : List (String × α)}
    (hnames : (choices.map Prod.fst).Nodup) {value : α} (hvalue : value ∈ choices.map Prod.snd) :
    (choice choices).ReadsBack value := by
  have hfound : (choices.find? (·.2 = value)).isSome := by
    obtain ⟨named, hnamed, rfl⟩ := List.mem_map.1 hvalue
    exact List.find?_isSome.2 ⟨named, hnamed, by simp⟩
  obtain ⟨named, hfind⟩ := Option.isSome_iff_exists.1 hfound
  obtain rfl : named.2 = value := by simpa using List.find?_some hfind
  have hlookup := lookup_of_mem hnames (List.mem_of_find?_eq_some hfind)
  refine ⟨Json.rawString_ofText _, ?_⟩
  simp only [choice, Json.text, hfind, Option.map_some, Option.getD_some, choose,
    Quoted.toText?_ofText, hlookup]

end Codec

/-! ### Records -/

namespace Fields

variable {ρ σ : Type}

/-- The codec of each field keeps the value of the field. -/
def ReadsBack {ρ σ : Type} : Fields ρ σ → ρ → Prop
  | .done, () => True
  | .field _ _ codec rest, (value, values) => codec.ReadsBack value ∧ rest.ReadsBack values

/-- The value of each field reads as the result for the field. -/
def ReadsAs {ρ σ : Type} : Fields ρ σ → ρ → ρ → Prop
  | .done, (), () => True
  | .field _ _ codec rest, (value, values), (result, results) =>
    codec.ReadsAs value result ∧ rest.ReadsAs values results

theorem ReadsBack.readsAs {fields : Fields ρ σ} {values : ρ} (h : fields.ReadsBack values) :
    fields.ReadsAs values values := by
  induction fields with
  | done => trivial
  | field name default? codec rest ih =>
    obtain ⟨value, values⟩ := values
    exact ⟨h.1.readsAs, ih h.2⟩

def found {ρ σ : Type} : Fields ρ σ → ρ → σ
  | .done, () => ()
  | .field _ _ _ rest, (value, values) => (some value, rest.found values)

theorem members_wellFormed (fields : Fields ρ σ) {values results : ρ}
    (h : fields.ReadsAs values results) :
    ∀ member ∈ fields.members values, Json.RawString member.1 ∧ member.2.WellFormed := by
  induction fields with
  | done => exact fun _ hmember => nomatch hmember
  | field name default? codec rest ih =>
    obtain ⟨value, values⟩ := values
    obtain ⟨result, results⟩ := results
    intro member hmember
    rcases List.mem_cons.1 hmember with rfl | hmember
    · exact ⟨Json.rawString_ofText name, h.1.wellFormed⟩
    · exact ih h.2 member hmember

theorem toText?_of_mem_members (fields : Fields ρ σ) {values : ρ} {member : Member}
    (h : member ∈ fields.members values) :
    ∃ name ∈ fields.names, Quoted.toText? member.1 = some name := by
  induction fields with
  | done => nomatch h
  | field name default? codec rest ih =>
    obtain ⟨value, values⟩ := values
    rcases List.mem_cons.1 h with rfl | h
    · exact ⟨name, List.mem_cons_self, Quoted.toText?_ofText name⟩
    · obtain ⟨other, hother, htext⟩ := ih h
      exact ⟨other, List.mem_cons_of_mem _ hother, htext⟩

/-- Members of other names are passed on to the other fields. -/
theorem noteAll_field {α : Type} {name : String} (default? : Option α) (codec : Codec α)
    (rest : Fields ρ σ) {members : List Member}
    (h : ∀ member ∈ members, ∃ key, Quoted.toText? member.1 = some key ∧ key ≠ name)
    (value? : Option α) {others result : σ} (hrest : rest.noteAll members others = .ok result) :
    (field name default? codec rest).noteAll members (value?, others) = .ok (value?, result) := by
  induction members generalizing others with
  | nil =>
    cases hrest
    rfl
  | cons member members ih =>
    obtain ⟨key, hkey, hne⟩ := h member List.mem_cons_self
    obtain ⟨key', noted, hkey', hnote, hrest⟩ := noteAll_cons.1 hrest
    cases hkey.symm.trans hkey'
    refine noteAll_cons.2 ⟨key, (value?, noted), hkey, ?_, ?_⟩
    · exact (note_field_of_ne hne).2 ⟨noted, hnote, rfl⟩
    · exact ih (fun other hother => h other (List.mem_cons_of_mem _ hother)) hrest

/-- The members of a record are all found. -/
theorem noteAll_members (fields : Fields ρ σ) (hnames : fields.names.Nodup) {values results : ρ}
    (h : fields.ReadsAs values results) :
    fields.noteAll (fields.members values) fields.none = .ok (fields.found results) := by
  induction fields with
  | done => rfl
  | field name default? codec rest ih =>
    obtain ⟨value, values⟩ := values
    obtain ⟨result, results⟩ := results
    obtain ⟨hname, hnames⟩ := List.nodup_cons.1 hnames
    have hothers : ∀ member ∈ rest.members values,
        ∃ key, Quoted.toText? member.1 = some key ∧ key ≠ name := by
      intro member hmember
      obtain ⟨key, hkey, htext⟩ := rest.toText?_of_mem_members hmember
      exact ⟨key, htext, fun heq => hname (heq ▸ hkey)⟩
    refine noteAll_cons.2
      ⟨name, (some result, rest.none), Quoted.toText?_ofText name, ?_, ?_⟩
    · exact note_field_self.2 ⟨rfl, result, h.1.decode_encode, rfl⟩
    · exact noteAll_field default? codec rest hothers (some result) (ih hnames h.2)

theorem complete_found (fields : Fields ρ σ) (values : ρ) :
    fields.complete (fields.found values) = .ok values := by
  induction fields with
  | done => rfl
  | field name default? codec rest ih =>
    obtain ⟨value, values⟩ := values
    exact complete_field.2 ⟨value, values, Option.some_or, ih values, rfl⟩

end Fields

/-- A record whose fields have different names reads as the record of what its fields read as. -/
theorem Codec.record_readsAs {ρ σ : Type} {fields : Fields ρ σ} {out : α → ρ} {of : ρ → α}
    (hnames : fields.names.Nodup) {value result : α} {results : ρ}
    (h : fields.ReadsAs (out value) results) (hof : of results = result) :
    (Codec.record fields out of).ReadsAs value result where
  wellFormed := ⟨rfl, Json.membersWellFormed_iff.2 (fields.members_wellFormed h)⟩
  decode_encode := by
    simp only [Codec.record, fields.noteAll_members hnames h, if_true, fields.complete_found, hof]

/-- A record is kept when its fields have different names and each keeps its value. -/
theorem Codec.record_readsBack {ρ σ : Type} {fields : Fields ρ σ} {out : α → ρ} {of : ρ → α}
    (hnames : fields.names.Nodup) {value : α} (h : fields.ReadsBack (out value))
    (hof : of (out value) = value) : (Codec.record fields out of).ReadsBack value :=
  (Codec.record_readsAs hnames h.readsAs hof).readsBack

end Bookshop
