import Bookshop.Cart.Line

/-!
# Products

The catalog service lists products in pages. A listing says where it stands among all pages, which
is what the links to its neighbours are made from.
-/

namespace Bookshop

structure Product where
  code : ProductCode
  name : String
  description : Option String := none
  imageUrl : Option String := none
  price : Money
deriving DecidableEq, Repr

structure Listing where
  products : List Product := []
  /-- How many products there are on all pages. -/
  totalProducts : Int64 := 0
  /-- The number of this page, from one on. -/
  pageNumber : Int64 := 1
  totalPages : Int64 := 0
  isFirst : Bool := true
  isLast : Bool := true
  hasNext : Bool := false
  hasPrevious : Bool := false
deriving DecidableEq, Repr

namespace Product

def fields :=
  Fields.field "code" none ProductCode.codec <|
  .field "name" none .text <|
  .field "description" (some none) (.optional .text) <|
  .field "imageUrl" (some none) (.optional .text) <|
  .field "price" none Money.codec .done

def codec : Codec Product :=
  .record fields (fun p => (p.code, p.name, p.description, p.imageUrl, p.price, ()))
    fun (code, name, description, imageUrl, price, ()) =>
      { code, name, description, imageUrl, price }

end Product

namespace Listing

/-- The listing that is shown before any page was loaded. -/
def blank : Listing := {}

def find? (listing : Listing) (code : ProductCode) : Option Product :=
  listing.products.find? (·.code = code)

def nextPage? (listing : Listing) : Option Int64 :=
  if listing.hasNext then some (listing.pageNumber + 1) else none

def previousPage? (listing : Listing) : Option Int64 :=
  if listing.hasPrevious then some (listing.pageNumber - 1) else none

def fields :=
  Fields.field "data" none (.list Product.codec) <|
  .field "totalElements" none .word <|
  .field "pageNumber" none .word <|
  .field "totalPages" none .word <|
  .field "isFirst" none .bool <|
  .field "isLast" none .bool <|
  .field "hasNext" none .bool <|
  .field "hasPrevious" none .bool .done

def codec : Codec Listing :=
  .record fields
    (fun l => (l.products, l.totalProducts, l.pageNumber, l.totalPages, l.isFirst, l.isLast,
      l.hasNext, l.hasPrevious, ()))
    fun (products, totalProducts, pageNumber, totalPages, isFirst, isLast, hasNext,
        hasPrevious, ()) =>
      { products, totalProducts, pageNumber, totalPages, isFirst, isLast, hasNext, hasPrevious }

end Listing

def listingPath (page : Nat) : String := "/api/products?page=" ++ digitText (digits page)

end Bookshop
