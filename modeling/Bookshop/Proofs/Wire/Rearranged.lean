import Bookshop.Proofs.Cart.Entry
import Bookshop.Proofs.Wire.Documents
import Bookshop.Proofs.Wire.Members

/-!
# Rearranged documents

Two documents are `Rearranged` when they differ in the order of members, and in members that no
field has the name of, in any of the records that are looked for in them. Reading tells no such
documents apart, whatever spaces their texts are spelled with. So what is stored or sent along with
a cart or an order, a total above all, has no part in what is shown: that depends on the lines.

The name of a member that is added has to be a text. A name with half a surrogate pair is no
field's, and yet no document is read that has a member of such a name in one of the records that are
looked for in it (`Misnamed.not_read`). In what stands under a foreign name nobody looks.
-/

namespace Bookshop

/-! ### Rearranging -/

/-- The documents are the same but for the order of members and for foreign members, in any of the
    records that the codec looks for. -/
inductive Rearranged : {α : Type} → Codec α → Json → Json → Prop where
  | refl {α : Type} (codec : Codec α) (json : Json) : Rearranged codec json json
  | symm {α : Type} {codec : Codec α} {json json' : Json} (h : Rearranged codec json json') :
      Rearranged codec json' json
  | trans {α : Type} {codec : Codec α} {json json' json'' : Json}
      (h : Rearranged codec json json') (h' : Rearranged codec json' json'') :
      Rearranged codec json json''
  | perm {α ρ σ : Type} {fields : Fields ρ σ} {out : α → ρ} {of : ρ → α}
      {members members' : List Member} (h : members.Perm members') :
      Rearranged (Codec.record fields out of) (.record members true) (.record members' true)
  /-- A member is added whose name is a text and no field's. -/
  | insert {α ρ σ : Type} {fields : Fields ρ σ} {out : α → ρ} {of : ρ → α} {raw : Bytes}
      {key : String} (hname : Quoted.toText? raw = some key) (hforeign : key ∉ fields.names)
      (value : Json) (members : List Member) :
      Rearranged (Codec.record fields out of) (.record members true)
        (.record ((raw, value) :: members) true)
  /-- The value of a field is rearranged as the codec of the field sees it. -/
  | within {α β ρ σ : Type} {fields : Fields ρ σ} {out : α → ρ} {of : ρ → α} {codec : Codec β}
      {raw : Bytes} {key : String} {value value' : Json} (hname : Quoted.toText? raw = some key)
      (hfield : fields.Has key codec) (h : Rearranged codec value value') (members : List Member) :
      Rearranged (Codec.record fields out of) (.record ((raw, value) :: members) true)
        (.record ((raw, value') :: members) true)
  | item {α : Type} {codec : Codec α} {item item' : Json} (h : Rearranged codec item item')
      (before after : List Json) :
      Rearranged codec.list (.list (before ++ item :: after) true)
        (.list (before ++ item' :: after) true)

/-- Rearranged documents are documents of the same values. -/
theorem Rearranged.decode_iff {α : Type} {codec : Codec α} {json json' : Json}
    (h : Rearranged codec json json') (value : α) :
    codec.decode json = .ok value ↔ codec.decode json' = .ok value := by
  induction h with
  | refl => exact Iff.rfl
  | symm _ ih => exact (ih value).symm
  | trans _ _ ih ih' => exact (ih value).trans (ih' value)
  | perm hperm =>
    exact Codec.record_decode_congr
      (fun _ => ⟨Fields.noteAll_perm hperm, Fields.noteAll_perm hperm.symm⟩) value
  | insert hname hforeign =>
    exact Codec.record_decode_congr (fun _ => (Fields.noteAll_foreign hname hforeign).symm) value
  | within hname hfield _ _ ih =>
    exact Codec.record_decode_congr
      (fun _ => ⟨Fields.noteAll_congr hname hfield fun value => (ih value).1,
        Fields.noteAll_congr hname hfield fun value => (ih value).2⟩) value
  | item _ before after ih =>
    rw [Codec.list_decode, Codec.list_decode]
    exact ⟨Codec.decodeItems_congr fun value => (ih value).1,
      Codec.decodeItems_congr fun value => (ih value).2⟩

/-! ### Names that are no texts -/

/-- In one of the records that the codec looks for, a member has a name that is no text. -/
inductive Misnamed : {α : Type} → Codec α → Json → Prop where
  | here {α ρ σ : Type} {fields : Fields ρ σ} {out : α → ρ} {of : ρ → α} {raw : Bytes}
      {value : Json} {members : List Member} (hname : Quoted.toText? raw = none)
      (hmem : (raw, value) ∈ members) :
      Misnamed (Codec.record fields out of) (.record members true)
  | within {α β ρ σ : Type} {fields : Fields ρ σ} {out : α → ρ} {of : ρ → α} {codec : Codec β}
      {raw : Bytes} {key : String} {value : Json} {members : List Member}
      (hname : Quoted.toText? raw = some key) (hfield : fields.Has key codec)
      (hmem : (raw, value) ∈ members) (h : Misnamed codec value) :
      Misnamed (Codec.record fields out of) (.record members true)
  | item {α : Type} {codec : Codec α} {item : Json} {items : List Json} (hmem : item ∈ items)
      (h : Misnamed codec item) : Misnamed codec.list (.list items true)

/-- Such a name spoils the whole document, wherever the record stands. -/
theorem Misnamed.not_read {α : Type} {codec : Codec α} {json : Json} (h : Misnamed codec json)
    (value : α) : codec.decode json ≠ .ok value := by
  induction h with
  | here hname hmem =>
    intro hread
    obtain ⟨found, -, hnote, -⟩ := Codec.record_decode_iff.1 hread
    obtain ⟨key, hkey⟩ := Fields.named_of_noteAll hnote hmem
    cases hname.symm.trans hkey
  | within hname hfield hmem _ ih =>
    intro hread
    obtain ⟨values, hgives, -⟩ := Codec.record_decode_gives hread hname hmem
    obtain ⟨inner, hinner⟩ := hgives.read hfield
    exact ih inner hinner
  | item hmem _ ih =>
    intro hread
    rw [Codec.list_decode] at hread
    obtain ⟨inner, hinner⟩ := Codec.read_of_mem_items hread hmem
    exact ih inner hinner

/-- Under a foreign name it does not matter. -/
example :
    let misnamed : Member := ([0x5C, 0x75, 0x64, 0x38, 0x30, 0x30], .null)
    let json := Json.record [(Quoted.ofText "x", .record [misnamed] true)] true
    SavedLines.codec.decode json = .ok ⟨[]⟩ := rfl

/-! ### Lines -/

/-- The tree is a record that has a member of the name with the value. -/
def Json.HasMember (json : Json) (name : String) (value : Json) : Prop :=
  ∃ members raw, json = .record members true ∧ (raw, value) ∈ members ∧
    Quoted.toText? raw = some name

variable {json json' items : Json} {bytes bytes' : Bytes}

theorem SavedLines.lines_of_items {document : SavedLines} (h : json.HasMember "items" items)
    (hread : SavedLines.codec.decode json = .ok document) :
    Line.codec.list.decode items = .ok document.lines := by
  obtain ⟨members, raw, rfl, hmem, hname⟩ := h
  obtain ⟨⟨lines, ⟨⟩⟩, hgives, rfl⟩ := Codec.record_decode_gives hread hname hmem
  simpa [Fields.Gives, SavedLines.fields] using hgives

theorem OrderRecord.lines_of_items {record : OrderRecord} (h : json.HasMember "items" items)
    (hread : OrderRecord.codec.decode json = .ok record) :
    Line.codec.list.decode items = .ok record.lines := by
  obtain ⟨members, raw, rfl, hmem, hname⟩ := h
  obtain ⟨⟨number, lines, others⟩, hgives, rfl⟩ := Codec.record_decode_gives hread hname hmem
  simpa [Fields.Gives, OrderRecord.fields] using hgives

/-- **Rearranged documents are read alike.** The bytes are texts of documents, with any spaces in
    them. When the documents are rearranged, they are read as the same values of every kind, and
    stored under a key they show the same cart. The cart that is shown and what an order comes to are
    settled by what the member for the lines reads as, whatever stands next to it. A member whose
    name is no text is another matter: with one in a record that is looked for, no value is read. -/
theorem rearranged_reads_alike (htext : json.IsText bytes) (htext' : json'.IsText bytes') :
    (∀ kind : DocumentKind, Rearranged kind.codec json json' →
      ∀ value, kind.codec.read bytes = .ok value ↔ kind.codec.read bytes' = .ok value) ∧
    (Rearranged SavedLines.codec json json' →
      ∀ {σ : Type} (saved : SavedCart σ) (state state' after after' : σ),
        saved.medium.get saved.key state = (.ok (some bytes), after) →
        saved.medium.get saved.key state' = (.ok (some bytes'), after') →
        (saved.current state).1 = (saved.current state').1) ∧
    (∀ items lines, json.HasMember "items" items → Line.codec.list.decode items = .ok lines →
      (∀ document, SavedLines.codec.read bytes = .ok document →
        ∀ {σ : Type} (saved : SavedCart σ) (state after : σ),
          saved.medium.get saved.key state = (.ok (some bytes), after) →
          saved.current state = (Cart.ofLinesOrEmpty lines, after)) ∧
      ∀ record, OrderRecord.codec.read bytes = .ok record → record.total = Line.sumOf lines) ∧
    ∀ kind : DocumentKind, Misnamed kind.codec json → ∀ value, kind.codec.read bytes ≠ .ok value := by
  have halike : ∀ kind : DocumentKind, Rearranged kind.codec json json' →
      ∀ value, kind.codec.read bytes = .ok value ↔ kind.codec.read bytes' = .ok value := by
    intro kind h value
    rw [Codec.read_text _ htext, Codec.read_text _ htext']
    exact h.decode_iff value
  refine ⟨halike, ?_, ?_, ?_⟩
  · intro h σ saved state state' after after' hget hget'
    rw [SavedCart.current_of_get hget, SavedCart.current_of_get hget']
    exact Cart.ofEntry_congr (halike .savedLines h)
  · intro items lines hitems hlines
    constructor
    · intro document hread σ saved state after hget
      rw [SavedCart.current_of_get hget, Cart.ofEntry_of_read hread]
      rw [Codec.read_text _ htext] at hread
      cases hlines.symm.trans (SavedLines.lines_of_items hitems hread)
      rfl
    · intro record hread
      rw [Codec.read_text _ htext] at hread
      cases hlines.symm.trans (OrderRecord.lines_of_items hitems hread)
      rfl
  · intro kind h value
    rw [Codec.read_text _ htext]
    exact h.not_read value

/-- An order comes back with a total that is none of its own, with a note in the data of its
    customer, and with the customer ahead of the number. It is read as the order it was, and shown
    as the same cart when it is stored as one. -/
theorem rearranged_reads_alike_order :
    let line : Line := ⟨⟨"A"⟩, "Atlas", ⟨250⟩, 1⟩
    let record : OrderRecord := ⟨⟨"o-1"⟩, [line], {}, {}, .new, none, none⟩
    let items := Line.codec.list.encode [line]
    let before : List Member :=
      [(Quoted.ofText "orderNumber", Json.text "o-1"), (Quoted.ofText "items", items)]
    let after : List Member :=
      [(Quoted.ofText "deliveryAddress", Address.codec.encode {}),
        (Quoted.ofText "status", Json.text "NEW"), (Quoted.ofText "comments", .null),
        (Quoted.ofText "createdAt", .null)]
    let data := Customer.fields.members ("", "", "", ())
    let noted := (Quoted.ofText "user", Json.list [.null] true) :: data
    let json := Json.record (before ++ (Quoted.ofText "customer", .record data true) :: after) true
    let json' := Json.record ((Quoted.ofText "totalAmount", Json.word 1) ::
      (Quoted.ofText "customer", .record noted true) :: (before ++ after)) true
    let bytes := json.spell
    let bytes' := [0x20] ++ json'.spell ++ [0x0A, 0x20]
    let saved : SavedCart Memory := ⟨Memory.medium, "cart"⟩
    let stored (bytes : Bytes) : Memory := Table.empty.insert "cart" bytes
    OrderRecord.codec.read bytes = .ok record ∧ OrderRecord.codec.read bytes' = .ok record ∧
      (saved.current (stored bytes)).1 = (saved.current (stored bytes')).1 ∧
      saved.current (stored bytes) = (⟨[line], ⟨250⟩⟩, stored bytes) ∧
      record.total = .ok ⟨250⟩ := by
  intro line record items before after data noted json json' bytes bytes' saved stored
  have hprices : ∀ line ∈ record.lines, line.price.InRange := by decide
  have hkept : OrderRecord.codec.ReadsBack record := OrderRecord.codec_readsBack hprices
  have htext : json.IsText bytes := Json.isText_spell hkept.wellFormed
  have htext' : json'.IsText bytes' := by
    have hwritten := Json.membersWellFormed_iff.1 hkept.wellFormed.2
    have hcustomer := hwritten (Quoted.ofText "customer", .record data true)
      (List.mem_append_right before List.mem_cons_self)
    refine ⟨[0x20], json'.spell, [0x0A, 0x20], by decide,
      Json.spelledAs_spell json' ⟨rfl, Json.membersWellFormed_iff.2 ?_⟩, by decide, rfl⟩
    intro member hmember
    rcases List.mem_cons.1 hmember with rfl | hmember
    · exact ⟨Json.rawString_ofText _, Numeral.ofWord_wellFormed 1⟩
    rcases List.mem_cons.1 hmember with rfl | hmember
    · exact ⟨Json.rawString_ofText _, rfl, Json.rawString_ofText _, ⟨rfl, trivial, trivial⟩,
        hcustomer.2.2⟩
    · exact hwritten member (List.perm_middle.mem_iff.2 (List.mem_cons_of_mem _ hmember))
  have hname := Quoted.toText?_ofText
  have horder : Rearranged OrderRecord.codec json json' :=
    (Rearranged.perm List.perm_middle).trans <|
      (Rearranged.within (hname "customer") (.there (by decide) (.there (by decide) .here))
        (.insert (hname "user") (by decide) _ data) _).trans <|
      .insert (hname "totalAmount") (by decide) _ _
  have hlines : Rearranged SavedLines.codec json json' :=
    (Rearranged.perm List.perm_middle).trans <|
      (Rearranged.insert (hname "customer") (by decide) _ _).symm.trans <|
      (Rearranged.insert (hname "customer") (by decide) (.record noted true) _).trans <|
      .insert (hname "totalAmount") (by decide) _ _
  obtain ⟨hkinds, hcarts, hitems, -⟩ := rearranged_reads_alike htext htext'
  have hread : OrderRecord.codec.read bytes = .ok record := hkept.read_write
  have hread' := (hkinds .orderRecord horder record).1 hread
  have hline := (Codec.list_readsBack fun line hline =>
    Line.codec_readsBack (hprices line hline)).decode_encode
  have hdocument : SavedLines.codec.read bytes = .ok ⟨[line]⟩ := by
    rw [Codec.read_text _ htext]
    decide +kernel
  have hmember : json.HasMember "items" items :=
    ⟨_, _, rfl, List.mem_cons_of_mem _ List.mem_cons_self, hname "items"⟩
  obtain ⟨hshown, htotal⟩ := hitems items [line] hmember hline
  have hget (bytes : Bytes) :
      saved.medium.get saved.key (stored bytes) = (.ok (some bytes), stored bytes) := by
    simp only [saved, Memory.medium, stored, Table.get?_insert_self]
  have hcart : Cart.ofLinesOrEmpty [line] = ⟨[line], ⟨250⟩⟩ := by decide +kernel
  have hsum : Line.sumOf [line] = .ok ⟨250⟩ := by decide +kernel
  refine ⟨hread, hread', ?_, ?_, ?_⟩
  · exact hcarts hlines saved _ _ _ _ (hget bytes) (hget bytes')
  · rw [hshown _ hdocument saved _ _ (hget bytes), hcart]
  · rw [htotal record hread, hsum]

/-- A name with half a surrogate pair is the name of no field, and yet a line is not read from a
    document with a member of that name. -/
theorem member_without_text_refused :
    let line : Line := ⟨⟨"A"⟩, "Atlas", ⟨250⟩, 1⟩
    let members := Line.fields.members (line.code, line.name, line.price, line.quantity, ())
    let raw : Bytes := [0x5C, 0x75, 0x64, 0x38, 0x30, 0x30]
    let plain := Json.record members true
    let added := Json.record (members ++ [(raw, .null)]) true
    plain.IsText plain.spell ∧ added.IsText added.spell ∧
      (∀ name ∈ Line.fields.names, Quoted.toText? raw ≠ some name) ∧
      Line.codec.read plain.spell = .ok line ∧ Line.codec.read added.spell = .error .malformed := by
  intro line members raw plain added
  have hkept : Line.codec.ReadsBack line := Line.codec_readsBack (by decide)
  have hadded : added.IsText added.spell := by
    refine Json.isText_spell ⟨rfl, Json.membersWellFormed_iff.2 ?_⟩
    intro member hmember
    rcases List.mem_append.1 hmember with hmember | hmember
    · exact Json.membersWellFormed_iff.1 hkept.wellFormed.2 member hmember
    · obtain rfl := List.mem_singleton.1 hmember
      exact ⟨.unit rfl rfl rfl rfl .nil, trivial⟩
  refine ⟨Json.isText_spell hkept.wellFormed, hadded, by decide, hkept.read_write, ?_⟩
  rw [Codec.read_text _ hadded]
  decide +kernel

end Bookshop
