import Bookshop.Cart.Saved
import Bookshop.Proofs.Cart.Invariant
import Bookshop.Proofs.Money
import Bookshop.Proofs.Run
import Bookshop.Proofs.Storage.FileSystem

/-!
# A saved cart is a cart in memory

Every use of a saved cart reads the document under the key, makes a cart of it, changes that and
writes it back. As long as the document mirrors a cart, meaning that nothing is saved and the cart
is empty or that the lines of the cart are saved, a use answers what it would answer on the cart
itself, and leaves a document that mirrors the cart afterwards.

The main statement is `saved_refines`: a run of uses of a cart that is saved in memory, and one of a
cart that is saved in a folder and opened again at any time, goes as on one cart in memory.
-/

namespace Bookshop

/-! ### Documents of carts -/

theorem ProductCode.codec_readsBack (code : ProductCode) : ProductCode.codec.ReadsBack code :=
  Codec.convert_readsBack (Codec.text_readsBack code.text) rfl

/-- A line whose price is in the range of decimal forms is kept by its document. -/
theorem Line.codec_readsBack {line : Line} (h : line.price.InRange) :
    Line.codec.ReadsBack line := by
  refine Codec.record_readsBack (by decide) ⟨?_, ?_, ?_, ?_, trivial⟩ rfl
  · exact ProductCode.codec_readsBack line.code
  · exact Codec.text_readsBack line.name
  · exact Money.codec_readsBack h
  · exact Codec.word_readsBack line.quantity

theorem SavedLines.codec_readsBack {lines : List Line} (h : ∀ line ∈ lines, line.price.InRange) :
    SavedLines.codec.ReadsBack ⟨lines⟩ :=
  Codec.record_readsBack (by decide)
    ⟨Codec.list_readsBack fun line hline => Line.codec_readsBack (h line hline), trivial⟩ rfl

/-! ### Uses -/

/-- A call to a saved cart. Adding one unit of a product is adding the quantity one. -/
inductive Use where
  | add (product : Product) (quantity : Int64)
  | update (code : ProductCode) (quantity : Int64)
  | remove (code : ProductCode)
  | discard
  | look
deriving DecidableEq, Repr

/-- What a call answers. -/
inductive Answer where
  | changed (result : Except CartError Cart)
  | discarded (result : Except CartError Unit)
  | shown (cart : Cart)
  | opened (result : Except StorageError Unit)

/-- A price that is added is in the range of decimal forms. -/
def Use.InRange : Use → Prop
  | .add product _ => product.price.InRange
  | _ => True

instance (use : Use) : Decidable use.InRange := by
  cases use <;> unfold Use.InRange <;> infer_instance

variable {σ : Type}

def Use.onSaved (saved : SavedCart σ) (use : Use) (state : σ) : Answer × σ :=
  match use with
  | .add product quantity =>
    let (result, state) := saved.add product quantity state
    (.changed result, state)
  | .update code quantity =>
    let (result, state) := saved.update code quantity state
    (.changed result, state)
  | .remove code =>
    let (result, state) := saved.remove code state
    (.changed result, state)
  | .discard =>
    let (result, state) := saved.discard state
    (.discarded result, state)
  | .look =>
    let (cart, state) := saved.current state
    (.shown cart, state)

/-- The answer to a change of a cart in memory, and the cart after it. -/
def Answer.ofChange (cart : Cart) : Except CartError (Option Cart) → Answer × Cart
  | .error e => (.changed (.error e), cart)
  | .ok none => (.changed (.ok cart), cart)
  | .ok (some result) => (.changed (.ok result), result)

def Use.onCart (use : Use) (cart : Cart) : Answer × Cart :=
  match use with
  | .add product quantity =>
    Answer.ofChange cart ((cart.add product.code product.name product.price quantity).map some)
  | .update code quantity => Answer.ofChange cart (cart.update code quantity)
  | .remove code => Answer.ofChange cart (cart.remove code)
  | .discard => (.discarded (.ok ()), .empty)
  | .look => (.shown cart, cart)

/-! ### Documents that mirror a cart -/

/-- The entry is what is saved of the cart: nothing of an empty one, or the document of the lines.
    -/
def Cart.SavedAs (cart : Cart) (entry : Option Bytes) : Prop :=
  entry = none ∧ cart = .empty ∨
    entry = some (Json.record
      [(Quoted.ofText "items", (Codec.list Line.codec).encode cart.lines)] true).spell

/-- The entry mirrors the cart, which can be read back from it. -/
structure Mirrors (entry : Option Bytes) (cart : Cart) : Prop where
  valid : cart.Valid
  inRange : ∀ line ∈ cart.lines, line.price.InRange
  saved : cart.SavedAs entry

theorem mirrors_empty : Mirrors none .empty :=
  ⟨Cart.empty_valid, by simp [Cart.empty], .inl ⟨rfl, rfl⟩⟩

section Serving

variable {medium : Medium σ} {key : String} {Good : σ → Prop} {entry : σ → Option Bytes}
  {state : σ} {cart : Cart}

theorem SavedCart.load_eq (hmedium : medium.Serves key Good entry) (hstate : Good state)
    (h : Mirrors (entry state) cart) :
    (⟨medium, key⟩ : SavedCart σ).load state = (.ok cart, state) := by
  have hget := hmedium.get hstate
  rcases h.saved with ⟨hentry, rfl⟩ | hentry
  · simp only [SavedCart.load, Medium.load, hget, hentry]
  · have hread := (SavedLines.codec_readsBack h.inRange).read_write
    change SavedLines.codec.read (Json.record
      [(Quoted.ofText "items", (Codec.list Line.codec).encode cart.lines)] true).spell = _ at hread
    simp only [SavedCart.load, Medium.load, hget, hentry, hread, h.valid.ofLines_lines]

theorem SavedCart.current_eq (hmedium : medium.Serves key Good entry) (hstate : Good state)
    (h : Mirrors (entry state) cart) :
    (⟨medium, key⟩ : SavedCart σ).current state = (cart, state) := by
  simp only [SavedCart.current, SavedCart.load_eq hmedium hstate h]

theorem SavedCart.keep_eq (hmedium : medium.Serves key Good entry) (hstate : Good state)
    (hvalid : cart.Valid) (hinRange : ∀ line ∈ cart.lines, line.price.InRange) :
    ∃ after, (⟨medium, key⟩ : SavedCart σ).keep cart state = (.ok cart, after) ∧ Good after ∧
      Mirrors (entry after) cart := by
  obtain ⟨after, hset, hgood, hentry⟩ :=
    hmedium.set (SavedLines.codec.write ⟨cart.lines⟩) hstate
  refine ⟨after, ?_, hgood, hvalid, hinRange, .inr hentry⟩
  simp only [SavedCart.keep, SavedCart.save, Medium.save, hset]

/-- The prices after a change are among those before it and the one that is added. -/
theorem Cart.Edited.inRange {lines after : List Line} {change : Cart.Change}
    (h : Cart.Edited lines change after) (hlines : ∀ line ∈ lines, line.price.InRange)
    (hchange : ∀ code name price quantity, change = .add code name price quantity → price.InRange) :
    ∀ line ∈ after, line.price.InRange := by
  intro line hline
  cases h with
  | set _ code hgood =>
    obtain ⟨old, hold, rfl | rfl⟩ := Cart.mem_setQuantity hline
    · exact hlines line hold
    · exact hlines old hold
  | filter _ keep => exact hlines line (List.mem_filter.1 hline).1
  | append name price hnew hgood =>
    rcases List.mem_append.1 hline with hline | hline
    · exact hlines line hline
    · rw [List.mem_singleton.1 hline]
      exact hchange _ _ _ _ rfl

/-- A change of the saved cart is that change of the cart in memory. -/
theorem SavedCart.change_eq (hmedium : medium.Serves key Good entry) (hstate : Good state)
    (h : Mirrors (entry state) cart) (change : Cart.Change)
    (hchange : ∀ code name price quantity, change = .add code name price quantity → price.InRange) :
    ∃ result after,
      (⟨medium, key⟩ : SavedCart σ).change change.outcome state = (result, after) ∧
      .changed result = (Answer.ofChange cart (change.outcome cart)).1 ∧ Good after ∧
      Mirrors (entry after) (Answer.ofChange cart (change.outcome cart)).2 := by
  have hload := SavedCart.load_eq hmedium hstate h
  simp only [SavedCart.change, hload]
  cases houtcome : change.outcome cart with
  | error e => exact ⟨_, state, rfl, rfl, hstate, h⟩
  | ok changed? =>
    cases changed? with
    | none => exact ⟨_, state, rfl, rfl, hstate, h⟩
    | some changed =>
      obtain ⟨hedited, -⟩ := Cart.Change.outcome_edited houtcome
      obtain ⟨after, hkeep, hgood, hmirrors⟩ := SavedCart.keep_eq hmedium hstate
        (Cart.Change.outcome_valid h.valid houtcome) (hedited.inRange h.inRange hchange)
      exact ⟨_, after, hkeep, rfl, hgood, hmirrors⟩

/-- One call to the saved cart is that call on the cart in memory. -/
theorem Use.onSaved_eq (hmedium : medium.Serves key Good entry) (hstate : Good state)
    (h : Mirrors (entry state) cart) {use : Use} (huse : use.InRange) :
    ∃ after, use.onSaved ⟨medium, key⟩ state = ((use.onCart cart).1, after) ∧ Good after ∧
      Mirrors (entry after) (use.onCart cart).2 := by
  cases use with
  | add product quantity =>
    have hprice : ∀ code name price units,
        Cart.Change.add product.code product.name product.price quantity =
          .add code name price units → price.InRange := by
      intro code name price units heq
      cases heq
      exact huse
    obtain ⟨result, after, heq, hanswer, hgood, hmirrors⟩ :=
      SavedCart.change_eq hmedium hstate h _ hprice
    have hadd : (⟨medium, key⟩ : SavedCart σ).add product quantity state = (result, after) := heq
    refine ⟨after, ?_, hgood, hmirrors⟩
    simp only [Use.onSaved, hadd, hanswer]
    rfl
  | update code quantity =>
    obtain ⟨result, after, heq, hanswer, hgood, hmirrors⟩ := SavedCart.change_eq hmedium hstate h
      (.update code quantity) (fun _ _ _ _ heq => nomatch heq)
    have hupdate : (⟨medium, key⟩ : SavedCart σ).update code quantity state = (result, after) := heq
    refine ⟨after, ?_, hgood, hmirrors⟩
    simp only [Use.onSaved, hupdate, hanswer]
    rfl
  | remove code =>
    obtain ⟨result, after, heq, hanswer, hgood, hmirrors⟩ := SavedCart.change_eq hmedium hstate h
      (.remove code) (fun _ _ _ _ heq => nomatch heq)
    have hremove : (⟨medium, key⟩ : SavedCart σ).remove code state = (result, after) := heq
    refine ⟨after, ?_, hgood, hmirrors⟩
    simp only [Use.onSaved, hremove, hanswer]
    rfl
  | discard =>
    obtain ⟨after, hdelete, hgood, hentry⟩ := hmedium.delete hstate
    refine ⟨after, ?_, hgood, ?_⟩
    · simp only [Use.onSaved, SavedCart.discard, hdelete, Use.onCart]
    · rw [hentry]
      exact mirrors_empty
  | look =>
    refine ⟨state, ?_, hstate, h⟩
    simp only [Use.onSaved, SavedCart.current_eq hmedium hstate h, Use.onCart]

end Serving

/-! ### Opening again -/

/-- A call to a cart that is saved in a folder, or the folder is opened again. -/
inductive FolderUse where
  | call (use : Use)
  | reopen
deriving DecidableEq, Repr

namespace FolderUse

/-- A price that is added by the call is in the range of decimal forms. -/
def InRange : FolderUse → Prop
  | .call use => use.InRange
  | .reopen => True

instance (use : FolderUse) : Decidable use.InRange := by
  cases use <;> unfold InRange <;> infer_instance

/-- The call to the cart saved in the folder that was opened last, or the opening of the folder of
    the text, seen from the current one. -/
def onFolder (text : String) (current : Location) (key : String) (use : FolderUse)
    (state : Location × FileSystem) : Answer × Location × FileSystem :=
  match use with
  | .call use =>
    let (answer, disk) := use.onSaved ⟨FileSystem.mediumAt state.1, key⟩ state.2
    (answer, state.1, disk)
  | .reopen =>
    match FileSystem.openFolder text current state.2 with
    | (.ok location, disk) => (.opened (.ok ()), location, disk)
    | (.error e, disk) => (.opened (.error e), state.1, disk)

/-- The same on a cart in memory, where there is nothing to open. -/
def onCart (use : FolderUse) (cart : Cart) : Answer × Cart :=
  match use with
  | .call use => use.onCart cart
  | .reopen => (.opened (.ok ()), cart)

end FolderUse

/-- The folder at a location is in use, and its entry mirrors the cart. -/
structure FolderMirrors (location : Location) (key : String) (opened : FileSystem)
    (state : Location × FileSystem) (cart : Cart) : Prop where
  location_eq : state.1 = location
  inUse : FileSystem.InUse location key opened state.2
  mirrors : Mirrors (FileSystem.entry location key state.2) cart

/-- One use, a re-opening included, stays at the location and is that use on the cart in memory. -/
theorem FolderUse.onFolder_eq {text key : String} {current location : Location}
    {opened : FileSystem} (hlocation : location.number < opened.folders.size)
    (hopen : ∀ later, opened.Extends later →
      FileSystem.openFolder text current later = (.ok location, later))
    {state : Location × FileSystem} {cart : Cart}
    (h : FolderMirrors location key opened state cart) {use : FolderUse} (huse : use.InRange) :
    ∃ after, use.onFolder text current key state = ((use.onCart cart).1, after) ∧
      FolderMirrors location key opened after (use.onCart cart).2 := by
  obtain ⟨_, disk⟩ := state
  obtain ⟨rfl, hdisk, hmirrors⟩ := h
  cases use with
  | call use =>
    obtain ⟨after, hafter, hinUse, hmirrors⟩ :=
      Use.onSaved_eq (FileSystem.mediumAt_serves key hlocation) hdisk hmirrors huse
    refine ⟨(_, after), ?_, rfl, hinUse, hmirrors⟩
    unfold onFolder
    dsimp only
    rw [hafter, onCart]
  | reopen =>
    have hagain := hopen disk hdisk.extend
    refine ⟨(_, disk), ?_, rfl, hdisk, hmirrors⟩
    unfold onFolder
    rw [hagain, onCart]

/-! ### Refinement -/

/-- A run of calls to a saved cart follows one on a cart in memory: it gave the same answers, then
    shows the same cart, and the entry is what is saved of that cart. -/
structure Follows (answers : List Answer) (shown : Cart) (entry : Option Bytes)
    (model : List Answer × Cart) : Prop where
  answers_eq : answers = model.1
  shown_eq : shown = model.2
  savedAs : model.2.SavedAs entry

/-- **A saved cart is a cart in memory.** Calls to a cart saved under a key start where nothing is
    under the key and add products at prices in the range of decimal forms. In memory, and in a
    folder that is opened again between the calls at any time, they answer what they answer on one
    cart in memory, which starts empty. That cart is the one shown afterwards, and what is saved of
    it is nothing, when it is empty, or the document of its lines. -/
theorem saved_refines (key : String) :
    (∀ (memory : Memory) (uses : List Use), memory.get? key = none →
      (∀ use ∈ uses, use.InRange) →
      let saved : SavedCart Memory := ⟨Memory.medium, key⟩
      let run := runAll (Use.onSaved saved) uses memory
      Follows run.1 (saved.current run.2).1 (run.2.get? key) (runAll Use.onCart uses Cart.empty)) ∧
    ∀ (text : String) (current location : Location) (disk opened : FileSystem)
      (uses : List FolderUse), disk.WellFormed → current.number < disk.folders.size →
      FileSystem.openFolder text current disk = (.ok location, opened) →
      FileSystem.Accepts location key opened → FileSystem.entry location key opened = none →
      (∀ use ∈ uses, use.InRange) →
      let run := runAll (FolderUse.onFolder text current key) uses (location, opened)
      let saved : SavedCart FileSystem := ⟨FileSystem.mediumAt run.2.1, key⟩
      Follows run.1 (saved.current run.2.2).1 (FileSystem.entry run.2.1 key run.2.2)
        (runAll FolderUse.onCart uses Cart.empty) := by
  constructor
  · intro memory uses hnone huses saved run
    have hmedium := Memory.serves key
    have hstart : Mirrors (memory.get? key) .empty := by
      rw [hnone]
      exact mirrors_empty
    have hcall : ∀ use ∈ uses, ∀ (memory : Memory) (cart : Cart), Mirrors (memory.get? key) cart →
        ∃ after, use.onSaved saved memory = ((use.onCart cart).1, after) ∧
          Mirrors (after.get? key) (use.onCart cart).2 := by
      intro use huse memory cart h
      obtain ⟨after, heq, -, hmirrors⟩ := Use.onSaved_eq hmedium trivial h (huses use huse)
      exact ⟨after, heq, hmirrors⟩
    obtain ⟨after, hrun, hmirrors⟩ := runAll_simulates hcall hstart
    have hcurrent := SavedCart.current_eq hmedium trivial hmirrors
    simp only [run, hrun]
    exact ⟨rfl, congrArg Prod.fst hcurrent, hmirrors.saved⟩
  · intro text current location disk opened uses hdisk hcurrent hopen haccepts hnone huses run saved
    obtain ⟨hopened, hlocation, hagain⟩ := FileSystem.openFolder_again hdisk hcurrent hopen
    have hstart : FolderMirrors location key opened (location, opened) .empty := by
      refine ⟨rfl, ⟨hopened, .refl opened, haccepts⟩, ?_⟩
      rw [hnone]
      exact mirrors_empty
    have hcall : ∀ use ∈ uses, ∀ (state : Location × FileSystem) (cart : Cart),
        FolderMirrors location key opened state cart →
        ∃ after, use.onFolder text current key state = ((use.onCart cart).1, after) ∧
          FolderMirrors location key opened after (use.onCart cart).2 :=
      fun use huse state cart h => FolderUse.onFolder_eq hlocation hagain h (huses use huse)
    obtain ⟨⟨_, after⟩, hrun, rfl, hafter, hmirrors⟩ := runAll_simulates hcall hstart
    have hcurrent := SavedCart.current_eq (FileSystem.mediumAt_serves key hlocation) hafter hmirrors
    simp only [run, saved, hrun]
    exact ⟨rfl, congrArg Prod.fst hcurrent, hmirrors.saved⟩

/-- A cart in memory and one in a folder. Units of an atlas are added, a product that is not there
    is updated, and too many units are refused. -/
theorem saved_refines_atlas :
    let atlas : Product := ⟨⟨"A"⟩, "Atlas", none, none, ⟨250⟩⟩
    let uses : List Use := [.add atlas 2, .update ⟨"B"⟩ 3, .add atlas 9998]
    let folderUses : List FolderUse := [.call (.add atlas 2), .reopen, .call .look]
    let cart : Cart := ⟨[⟨⟨"A"⟩, "Atlas", ⟨250⟩, 2⟩], ⟨500⟩⟩
    let saved : SavedCart Memory := ⟨Memory.medium, "cart"⟩
    let run := runAll (Use.onSaved saved) uses Table.empty
    let opened := FileSystem.empty.addFolder "shop" 0
    let folderRun :=
      runAll (FolderUse.onFolder "shop" FileSystem.root "cart") folderUses (⟨1, "shop"⟩, opened)
    let savedInFolder : SavedCart FileSystem := ⟨FileSystem.mediumAt folderRun.2.1, "cart"⟩
    (runAll Use.onCart uses Cart.empty).2 = cart ∧
      Follows run.1 (saved.current run.2).1 (run.2.get? "cart")
        (runAll Use.onCart uses Cart.empty) ∧
      (runAll FolderUse.onCart folderUses Cart.empty).2 = cart ∧
      Follows folderRun.1 (savedInFolder.current folderRun.2.2).1
        (FileSystem.entry folderRun.2.1 "cart" folderRun.2.2)
        (runAll FolderUse.onCart folderUses Cart.empty) := by
  intro atlas uses folderUses cart
  have haccepts : FileSystem.Accepts ⟨1, "shop"⟩ "cart" (FileSystem.empty.addFolder "shop" 0) :=
    ⟨⟨by decide, by decide, fun _ h => (nomatch h), fun _ h => (nomatch h)⟩, by decide, by decide⟩
  have huses : ∀ use ∈ uses, use.InRange := by decide +kernel
  have hfolderUses : ∀ use ∈ folderUses, use.InRange := by decide +kernel
  have hcart : (runAll Use.onCart uses Cart.empty).2 = cart := by decide +kernel
  have hfolderCart : (runAll FolderUse.onCart folderUses Cart.empty).2 = cart := by decide +kernel
  have hmemory := (saved_refines "cart").1 Table.empty uses rfl huses
  have hfolder := (saved_refines "cart").2 "shop" FileSystem.root ⟨1, "shop"⟩ FileSystem.empty
    (FileSystem.empty.addFolder "shop" 0) folderUses FileSystem.empty_wellFormed (by decide) rfl
    haccepts rfl hfolderUses
  exact ⟨hcart, hmemory, hfolderCart, hfolder⟩

end Bookshop
