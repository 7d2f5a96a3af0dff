import ShopManager.Library.Execution
import ShopManager.Library.Outline
import ShopManager.Library.Table
import ShopManager.Library.Text
import ShopManager.Library.Transaction

/-!
# Categories of products

A category names its parent by the parent's `cid`, and its own `cid` starts with that of the
parent.  Saving a category writes both parts of its place anew: the `cid` and the grade.
-/

namespace ShopManager.Category

open Library Library.Tx Library.Text Library.Execution

inductive CatStatus where
  | normal | delete
  deriving DecidableEq, Repr

structure SaleCategory where
  id : Nat
  cid : String
  parentCid : String
  name : String
  catPic : String
  grade : Nat
  sortOrder : Int
  status : CatStatus
  deriving DecidableEq, Repr

instance : Row SaleCategory where
  pk := SaleCategory.id
  withPk n category := { category with id := n }

/-- `strict` says whether the database refuses a text that is longer than its column, or cuts it
off. -/
structure CategoryDb where
  strict : Bool
  rows : Table SaleCategory

inductive Fault where
  | attributeError | doesNotExist | dataError | integrityError
  deriving DecidableEq, Repr

abbrev CategoryTx (α : Type) := Tx CategoryDb Fault α

def rootId : String := "0"

def firstGrade : Nat := 1

/-- `max_length` of the `cid`. -/
def cidLength : Nat := 32

/-! ## Saving -/

def CategoryDb.byCid (s : CategoryDb) (cid : String) : Option SaleCategory :=
  s.rows.first fun category => category.cid = cid

def defaultSalecategoryCid (s : CategoryDb) : String :=
  match s.rows.rows.getLast? with
  | some sc => toString (sc.id + 1)
  | none => "1"

/-- The `cid` of a category with the last part `part` below `parentCat`. -/
def cidBelow (parentCat : SaleCategory) (part : String) : String :=
  strip '-' parentCat.cid ++ "-" ++ part

/-- What `save` repairs before it writes. -/
def SaleCategory.repaired (self : SaleCategory) : CategoryTx SaleCategory :=
  if self.parentCid ≠ rootId then do
    let parentCat ← getOr .attributeError fun s => s.byCid self.parentCid
    pure { self with
      grade := parentCat.grade + 1
      cid := cidBelow parentCat (lastPart '-' self.cid) }
  else
    pure self

def column (strict : Bool) (cid : String) : Except Fault String :=
  if cid.length ≤ cidLength then .ok cid
  else if strict then .error .dataError
  else .ok (String.ofList (cid.toList.take cidLength))

/-- The `cid` is unique. -/
def Taken (s : CategoryDb) (cid : String) (id : Nat) : Prop :=
  ∃ other ∈ s.rows.rows, other.cid = cid ∧ other.id ≠ id

instance (s : CategoryDb) (cid : String) (id : Nat) : Decidable (Taken s cid id) :=
  inferInstanceAs (Decidable (∃ other ∈ s.rows.rows, _))

def insert (self : SaleCategory) : CategoryTx Unit := do
  let s ← gets id
  let cid ← ofExcept (column s.strict self.cid)
  raiseIf (Taken s cid s.rows.nextId) .integrityError
  modify fun s => { s with rows := s.rows.insert { self with cid := cid } }

def update (self : SaleCategory) : CategoryTx Unit := do
  let s ← gets id
  let cid ← ofExcept (column s.strict self.cid)
  raiseIf (Taken s cid self.id) .integrityError
  modify fun s => { s with rows := s.rows.save { self with cid := cid } }

/-- `save` of a category that is in the table. -/
def SaleCategory.save (self : SaleCategory) : CategoryTx Unit := do
  let self ← self.repaired
  update self

/-- The values of a category that its node shows. -/
structure Values where
  cid : String
  parentCid : String
  name : String
  catPic : String
  grade : Nat
  deriving DecidableEq, Repr

def SaleCategory.values (category : SaleCategory) : Values where
  cid := category.cid
  parentCid := category.parentCid
  name := category.name
  catPic := category.catPic
  grade := category.grade

/-- `order_by('parent_cid', '-sort_order')`. -/
def sorted (categories : List SaleCategory) : List SaleCategory :=
  categories.mergeSort fun a b =>
    a.parentCid < b.parentCid || (a.parentCid = b.parentCid && b.sortOrder ≤ a.sortOrder)

/-- The `childs` of the node with the given `cid`, within a depth of calls. -/
def recursiveAppendChildSalecategorys (districts : List Values) (depth : Nat) (cid : String) :
    Option (List (Outline.Node Values)) :=
  Outline.build districts Values.parentCid Values.cid depth cid

def getSalecategoryJsonData (categories : List SaleCategory) (depth : Nat) :
    Option (List (Outline.Node Values)) :=
  recursiveAppendChildSalecategorys ((sorted categories).map SaleCategory.values) depth rootId

def getNormalCategorys (s : CategoryDb) : List SaleCategory :=
  s.rows.filter fun category => category.status = .normal

/-- The loop of `get_firstgrade_category`, with the turns that are left. -/
def climb (s : CategoryDb) : Nat → SaleCategory → Option SaleCategory
  | 0, _ => none
  | turns + 1, parentCat =>
      match s.byCid parentCat.parentCid with
      | none => some parentCat
      | some tmpCat => climb s turns tmpCat

def getFirstgradeCategory (s : CategoryDb) (self : SaleCategory) : Option SaleCategory :=
  if self.grade = firstGrade then some self
  else
    match s.byCid self.parentCid with
    | none => none
    | some parentCat => climb s 10 parentCat

inductive CategoryOp where
  | create (parentCid name catPic : String) (sortOrder : Int) (status : CatStatus)
  | rename (id : Nat) (name : String)
  | setInvalid (id : Nat)
  | move (id : Nat) (parentCid : String)

/-- A category as it is made, before its first save. -/
def SaleCategory.new (cid parentCid name catPic : String) (sortOrder : Int) (status : CatStatus) :
    SaleCategory where
  id := 0
  cid := cid
  parentCid := parentCid
  name := name
  catPic := catPic
  grade := firstGrade
  sortOrder := sortOrder
  status := status

def CategoryOp.call : CategoryOp → CategoryTx Unit
  | .create parentCid name catPic sortOrder status => do
      let cid ← gets defaultSalecategoryCid
      let self ← (SaleCategory.new cid parentCid name catPic sortOrder status).repaired
      insert self
  | .rename id name => do
      let self ← getOr .doesNotExist fun s => s.rows.get? id
      { self with name := name }.save
  | .setInvalid id => do
      let self ← getOr .doesNotExist fun s => s.rows.get? id
      { self with status := .delete }.save
  | .move id parentCid => do
      let self ← getOr .doesNotExist fun s => s.rows.get? id
      { self with parentCid := parentCid }.save

def CategoryOp.exec (op : CategoryOp) (s : CategoryDb) : CategoryDb := (op.call.run s).2

def CategoryDb.start (strict : Bool) : CategoryDb := { strict := strict, rows := .empty }

end ShopManager.Category
