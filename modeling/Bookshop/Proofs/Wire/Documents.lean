import Bookshop.Checkout.Order
import Bookshop.Proofs.Cart.Saved
import Bookshop.Proofs.Storage.Filing

/-!
# Documents of every type

Everything that goes to a service or into a store is a record of texts, words, amounts and other
records, and is kept by its document as soon as its amounts are in the range of decimal forms. A
document in memory is found again under its key for as long as nothing is written under that key.

The main statement is `document_round_trip`: a value of any of the types is read from its document
as it was written, at once and later from the store.
-/

namespace Bookshop

/-! ### Records that are kept -/

theorem OrderNumber.codec_readsBack (number : OrderNumber) :
    OrderNumber.codec.ReadsBack number :=
  Codec.convert_readsBack (Codec.text_readsBack number.text) rfl

theorem Customer.codec_readsBack (customer : Customer) : Customer.codec.ReadsBack customer := by
  refine Codec.record_readsBack (by decide) ⟨?_, ?_, ?_, trivial⟩ rfl
  · exact Codec.text_readsBack customer.name
  · exact Codec.text_readsBack customer.email
  · exact Codec.text_readsBack customer.phone

theorem Address.codec_readsBack (address : Address) : Address.codec.ReadsBack address := by
  refine Codec.record_readsBack (by decide) ⟨?_, ?_, ?_, ?_, ?_, ?_, trivial⟩ rfl
  · exact Codec.text_readsBack address.line1
  · exact Codec.optional_text_readsBack address.line2
  · exact Codec.text_readsBack address.city
  · exact Codec.text_readsBack address.state
  · exact Codec.text_readsBack address.zipCode
  · exact Codec.text_readsBack address.country

theorem OrderForm.codec_readsBack (form : OrderForm) : OrderForm.codec.ReadsBack form := by
  refine Codec.record_readsBack (by decide) ⟨?_, ?_, trivial⟩ rfl
  · exact Customer.codec_readsBack form.customer
  · exact Address.codec_readsBack form.deliveryAddress

theorem Order.codec_readsBack {order : Order} (h : ∀ line ∈ order.lines, line.price.InRange) :
    Order.codec.ReadsBack order := by
  refine Codec.record_readsBack (by decide) ⟨?_, ?_, ?_, trivial⟩ rfl
  · exact Customer.codec_readsBack order.customer
  · exact Address.codec_readsBack order.deliveryAddress
  · exact Codec.list_readsBack fun line hline => Line.codec_readsBack (h line hline)

theorem Confirmation.codec_readsBack (confirmation : Confirmation) :
    Confirmation.codec.ReadsBack confirmation :=
  Codec.record_readsBack (by decide)
    ⟨OrderNumber.codec_readsBack confirmation.orderNumber, trivial⟩ rfl

theorem OrderStatus.codec_readsBack (status : OrderStatus) : OrderStatus.codec.ReadsBack status :=
  Codec.choice_readsBack (by decide) (by cases status <;> decide)

theorem OrderRecord.codec_readsBack {record : OrderRecord}
    (h : ∀ line ∈ record.lines, line.price.InRange) : OrderRecord.codec.ReadsBack record := by
  refine Codec.record_readsBack (by decide) ⟨?_, ?_, ?_, ?_, ?_, ?_, ?_, trivial⟩ rfl
  · exact OrderNumber.codec_readsBack record.orderNumber
  · exact Codec.list_readsBack fun line hline => Line.codec_readsBack (h line hline)
  · exact Customer.codec_readsBack record.customer
  · exact Address.codec_readsBack record.deliveryAddress
  · exact OrderStatus.codec_readsBack record.status
  · exact Codec.optional_text_readsBack record.comments
  · exact Codec.optional_text_readsBack record.createdAt

theorem Product.codec_readsBack {product : Product} (h : product.price.InRange) :
    Product.codec.ReadsBack product := by
  refine Codec.record_readsBack (by decide) ⟨?_, ?_, ?_, ?_, ?_, trivial⟩ rfl
  · exact ProductCode.codec_readsBack product.code
  · exact Codec.text_readsBack product.name
  · exact Codec.optional_text_readsBack product.description
  · exact Codec.optional_text_readsBack product.imageUrl
  · exact Money.codec_readsBack h

theorem Listing.codec_readsBack {listing : Listing}
    (h : ∀ product ∈ listing.products, product.price.InRange) :
    Listing.codec.ReadsBack listing := by
  refine Codec.record_readsBack (by decide) ⟨?_, ?_, ?_, ?_, ?_, ?_, ?_, ?_, trivial⟩ rfl
  · exact Codec.list_readsBack fun product hproduct =>
      Product.codec_readsBack (h product hproduct)
  · exact Codec.word_readsBack listing.totalProducts
  · exact Codec.word_readsBack listing.pageNumber
  · exact Codec.word_readsBack listing.totalPages
  · exact Codec.bool_readsBack listing.isFirst
  · exact Codec.bool_readsBack listing.isLast
  · exact Codec.bool_readsBack listing.hasNext
  · exact Codec.bool_readsBack listing.hasPrevious

/-! ### Kinds of documents -/

/-- The types whose values are written as documents. -/
inductive DocumentKind where
  | line
  | savedLines
  | customer
  | address
  | orderForm
  | order
  | confirmation
  | orderRecord
  | product
  | listing
deriving DecidableEq, Repr

namespace DocumentKind

def Value : DocumentKind → Type
  | line => Line
  | savedLines => SavedLines
  | customer => Customer
  | address => Address
  | orderForm => OrderForm
  | order => Order
  | confirmation => Confirmation
  | orderRecord => OrderRecord
  | product => Product
  | listing => Listing

def codec : (kind : DocumentKind) → Codec kind.Value
  | line => Line.codec
  | savedLines => SavedLines.codec
  | customer => Customer.codec
  | address => Address.codec
  | orderForm => OrderForm.codec
  | order => Order.codec
  | confirmation => Confirmation.codec
  | orderRecord => OrderRecord.codec
  | product => Product.codec
  | listing => Listing.codec

/-- All amounts in a value. -/
def amounts : (kind : DocumentKind) → kind.Value → List Money
  | line, (value : Line) => [value.price]
  | savedLines, (value : SavedLines) => value.lines.map Line.price
  | order, (value : Order) => value.lines.map Line.price
  | orderRecord, (value : OrderRecord) => value.lines.map Line.price
  | product, (value : Product) => [value.price]
  | listing, (value : Listing) => value.products.map Product.price
  | customer, _ => []
  | address, _ => []
  | orderForm, _ => []
  | confirmation, _ => []

/-- A value is kept by its document when its amounts are in the range of decimal forms. -/
theorem codec_readsBack {kind : DocumentKind} {value : kind.Value}
    (h : ∀ amount ∈ kind.amounts value, amount.InRange) : kind.codec.ReadsBack value := by
  cases kind with
  | line => exact Line.codec_readsBack (List.forall_mem_singleton.1 h)
  | savedLines => exact SavedLines.codec_readsBack (List.forall_mem_map.1 h)
  | customer => exact Customer.codec_readsBack value
  | address => exact Address.codec_readsBack value
  | orderForm => exact OrderForm.codec_readsBack value
  | order => exact Order.codec_readsBack (List.forall_mem_map.1 h)
  | confirmation => exact Confirmation.codec_readsBack value
  | orderRecord => exact OrderRecord.codec_readsBack (List.forall_mem_map.1 h)
  | product => exact Product.codec_readsBack (List.forall_mem_singleton.1 h)
  | listing => exact Listing.codec_readsBack (List.forall_mem_map.1 h)

end DocumentKind

/-! ### Documents in a store -/

/-- A call to a store that is used for documents, by its bytes or by a value of any type. -/
inductive DocumentCall : Type 1 where
  | raw (call : StoreCall)
  | load {α : Type} (codec : Codec α) (key : String)
  | save (key : String) (document : Except EncodeError Bytes)

namespace DocumentCall

variable {σ : Type}

/-- The state of the store after the call. -/
def after (medium : Medium σ) (state : σ) : DocumentCall → σ
  | raw call => (call.onMedium medium state).2
  | load codec key => (medium.load codec key state).2
  | save key document => (medium.save key document state).2

/-- The key that the call writes under. -/
def written? : DocumentCall → Option String
  | raw (.set key _) => some key
  | raw (.delete key) => some key
  | save key _ => some key
  | _ => none

/-- A call touches no other key than the one it writes under. -/
theorem get?_after {call : DocumentCall} {key : String} (h : call.written? ≠ some key)
    (memory : Memory) : (call.after Memory.medium memory).get? key = memory.get? key := by
  have hother {written : String} (hne : some written ≠ some key) : key ≠ written :=
    fun heq => hne (congrArg some heq.symm)
  cases call with
  | raw call =>
    cases call with
    | set written bytes =>
      change (memory.insert written bytes).get? key = memory.get? key
      rw [Table.get?_insert, if_neg (hother h)]
    | get found => rfl
    | delete written =>
      change (memory.erase written).get? key = memory.get? key
      rw [Table.get?_erase, if_neg (hother h)]
    | contains found => rfl
    | reopen => rfl
  | load codec found =>
    rw [after, Medium.load_state]
    rfl
  | save written document =>
    cases document with
    | error e => rfl
    | ok bytes =>
      change (memory.insert written bytes).get? key = memory.get? key
      rw [Table.get?_insert, if_neg (hother h)]

theorem get?_foldl_after {calls : List DocumentCall} {key : String}
    (h : ∀ call ∈ calls, call.written? ≠ some key) (memory : Memory) :
    (calls.foldl (after Memory.medium) memory).get? key = memory.get? key := by
  induction calls generalizing memory with
  | nil => rfl
  | cons call calls ih =>
    rw [List.foldl_cons, ih fun other hother => h other (List.mem_cons_of_mem _ hother)]
    exact get?_after (h call List.mem_cons_self) memory

end DocumentCall

/-- **Documents are read as they were written.** A value of any of the types, whose amounts are in
    the range of decimal forms, is read from the bytes of its document as that value. Kept in memory
    under a key, it is what is found there later, whatever calls came in between that write under
    other keys only. -/
theorem document_round_trip (kind : DocumentKind) (value : kind.Value)
    (hvalue : ∀ amount ∈ kind.amounts value, amount.InRange) :
    kind.codec.read (kind.codec.write value) = .ok value ∧
      ∀ (memory : Memory) (key : String) (calls : List DocumentCall),
        (∀ call ∈ calls, call.written? ≠ some key) →
        let saved := Memory.medium.save key (.ok (kind.codec.write value)) memory
        let later := calls.foldl (DocumentCall.after Memory.medium) saved.2
        saved.1 = .ok () ∧ (Memory.medium.load kind.codec key later).1 = .ok (some value) := by
  have hread := (DocumentKind.codec_readsBack hvalue).read_write
  refine ⟨hread, ?_⟩
  intro memory key calls hcalls saved later
  refine ⟨rfl, ?_⟩
  have hfound : later.get? key = some (kind.codec.write value) := by
    rw [DocumentCall.get?_foldl_after hcalls saved.2]
    exact Table.get?_insert_self memory key _
  have hget : Memory.medium.get key later = (.ok (some (kind.codec.write value)), later) := by
    simp only [Memory.medium, hfound]
  simp only [Medium.load, hget, hread]

/-- The record of a delivered order, with characters in it that have to be escaped, is found again
    after the cart next to it was saved and thrown away. -/
theorem document_round_trip_delivered :
    let line : Line := ⟨⟨"b-1"⟩, "Atlas", ⟨-3518437208883200⟩, 9223372036854775807⟩
    let record : OrderRecord :=
      ⟨⟨"o-1"⟩, [line], ⟨"Ada \"A\"", "", ""⟩, ⟨"1 Main St", some "C:\\", "", "", "", ""⟩,
        .delivered, some "left\nat \x01 door", none⟩
    let calls : List DocumentCall :=
      [.save "cart" (.ok (SavedLines.codec.write ⟨[line]⟩)), .load Codec.word "record",
        .raw (.delete "cart")]
    let saved := Memory.medium.save "record" (.ok (OrderRecord.codec.write record)) Table.empty
    let later := calls.foldl (DocumentCall.after Memory.medium) saved.2
    line.price.InRange ∧ (∀ call ∈ calls, call.written? ≠ some "record") ∧
      OrderRecord.codec.read (OrderRecord.codec.write record) = .ok record ∧
      (Memory.medium.load OrderRecord.codec "record" later).1 = .ok (some record) := by
  intro line record calls saved later
  have hline : line.price.InRange := by decide
  have hcalls : ∀ call ∈ calls, call.written? ≠ some "record" := by decide
  obtain ⟨hread, hlater⟩ :=
    document_round_trip .orderRecord record (List.forall_mem_singleton.2 hline)
  exact ⟨hline, hcalls, hread, (hlater Table.empty "record" calls hcalls).2⟩

end Bookshop
