import Bookshop.Checkout.Script
import Bookshop.Fetch.Network
import Bookshop.Page.Cart
import Bookshop.Page.Listing
import Bookshop.Page.Order
import Bookshop.Settings.Overlay
import Bookshop.Shop
import Bookshop.Wire.Mapping
import Bookshop.Proofs.Cart.Invariant
import Bookshop.Proofs.Binary64.Arithmetic
import Bookshop.Proofs.Binary64.Shortest
import Bookshop.Proofs.Cart.Saved
import Bookshop.Proofs.Checkout.Interleaving
import Bookshop.Proofs.Cart.Atomic
import Bookshop.Proofs.Storage.Filing
import Bookshop.Proofs.Storage.Writers
import Bookshop.Proofs.Money.Kept
import Bookshop.Proofs.Money.Drift
import Bookshop.Proofs.Wire.Documents
import Bookshop.Proofs.Cart.Kept
import Bookshop.Proofs.Page.Snapshot
import Bookshop.Proofs.Page.Floor
import Bookshop.Proofs.Cart.Gathering
import Bookshop.Proofs.Cart.Apart
import Bookshop.Proofs.Cart.Blame
import Bookshop.Proofs.Cart.History
import Bookshop.Proofs.Cart.Unreadable
import Bookshop.Proofs.Wire.Rearranged
import Bookshop.Proofs.Cart.Update
import Bookshop.Proofs.Cart.Shrinking
import Bookshop.Proofs.Storage.Replacement
import Bookshop.Proofs.Money.Settled
import Bookshop.Proofs.Fetch.Verdict
import Bookshop.Proofs.Storage.Naming
import Bookshop.Proofs.Page.Loaded
import Bookshop.Proofs.Json.Written
import Bookshop.Proofs.Settings.Arranged
import Bookshop.Proofs.Settings.Files
import Bookshop.Proofs.Checkout.Record
import Bookshop.Proofs.Money.Shown
import Bookshop.Proofs.Fetch.Address
