import GrrAcl.Aff4.Urn
import Mathlib.Data.List.Sort
import Mathlib.Logic.Function.Basic

/-! The versioned object store: attribute histories, typed objects, and opening, listing and writing them. -/

namespace GrrAcl

/-- One stored value of an attribute, with the timestamp it was written at (its `age`). -/
structure Versioned (α : Type) where
  /-- The decoded value. -/
  value : α
  /-- When it was written, in microseconds since the epoch. -/
  age : Int
  deriving DecidableEq, Repr

/-- The order versions are kept in: a version comes before every one no newer than it. -/
def Versioned.Newer {α : Type} (newer older : Versioned α) : Prop :=
  older.age ≤ newer.age

instance {α : Type} : DecidableRel (@Versioned.Newer α) :=
  fun newer older => inferInstanceAs (Decidable (older.age ≤ newer.age))

instance {α : Type} : IsTotal (Versioned α) Versioned.Newer :=
  ⟨fun first second => Int.le_total second.age first.age⟩

instance {α : Type} : IsTrans (Versioned α) Versioned.Newer :=
  ⟨fun _ _ _ firstSecond secondThird => Int.le_trans secondThird firstSecond⟩

/--
Modelled from the spec: one cell of the substrate, every version of one attribute of one object.

Versions are kept newest first, and a later write comes first among versions of one timestamp.
-/
structure History (α : Type) where
  /-- The stored versions, newest first. -/
  versions : List (Versioned α)
  /-- `GetValuesForAttribute` returns them in this order. -/
  sorted : versions.Sorted Versioned.Newer

namespace History

/-- A cell never written. -/
def empty {α : Type} : History α :=
  ⟨[], List.sorted_nil⟩

/-- Writing a value at a timestamp places it before every version no newer than it. -/
def add {α : Type} (history : History α) (value : α) (age : Int) : History α :=
  ⟨history.versions.orderedInsert Versioned.Newer ⟨value, age⟩, history.sorted.orderedInsert _ _⟩

/-- `Get(attribute)`: the newest version, if the attribute was ever written. -/
def newest {α : Type} (history : History α) : Option (Versioned α) :=
  history.versions.head?

/-- What an object opened at `NEWEST_TIME` loads of a cell: its newest version alone. -/
def latest {α : Type} (history : History α) : History α :=
  ⟨history.versions.take 1, history.sorted.sublist (List.take_sublist 1 _)⟩

/-- A written value is stored beside every version that was already there. -/
@[simp] theorem mem_add {α : Type} (history : History α) (value : α) (age : Int)
    (version : Versioned α) :
    version ∈ (history.add value age).versions ↔ version = ⟨value, age⟩ ∨ version ∈ history.versions := by
  -- Inserting in order is a permutation of putting the version in front.
  simp [add, (List.perm_orderedInsert _ _ _).mem_iff]

/-- The newest version once a value is written is the written one or the newest before. -/
theorem newest_add {α : Type} (history : History α) (value : α) (age : Int) :
    (history.add value age).newest = some ⟨value, age⟩ ∨ (history.add value age).newest = history.newest := by
  -- Inserting in order puts the version in front, or behind the version that was in front.
  obtain ⟨versions, sorted⟩ := history
  cases versions with
  | nil => simp [add, newest]
  | cons first rest =>
    simp only [add, newest, List.orderedInsert]
    split <;> simp

/-- A written cell has a newest version. -/
theorem newest_add_isSome {α : Type} (history : History α) (value : α) (age : Int) :
    (history.add value age).newest.isSome := by
  -- Inserting in order makes the list one longer, so it has a head.
  have longer := List.orderedInsert_length Versioned.Newer history.versions ⟨value, age⟩
  simp only [newest, add, Option.isSome_iff_ne_none, ne_eq, List.head?_eq_none_iff]
  intro empty
  simp [empty] at longer

/-- Loading only the newest versions keeps the newest one. -/
@[simp] theorem latest_newest {α : Type} (history : History α) : history.latest.newest = history.newest := by
  obtain ⟨versions, _⟩ := history
  cases versions <;> rfl

end History

/-- The AFF4 classes the approval code opens objects as, and any other class by its name. -/
inductive AFF4Type where
  /-- `aff4.AFF4Object`, the root of the hierarchy. -/
  | aff4Object
  /-- `aff4.AFF4Volume`. -/
  | aff4Volume
  /-- `aff4.AFF4Symlink`, which opens as its target. -/
  | aff4Symlink
  /-- `aff4_users.GRRUser`. -/
  | grrUser
  /-- `aff4_grr.VFSGRRClient`. -/
  | vfsGrrClient
  /-- `security.Approval`. -/
  | approval
  /-- `security.ApprovalWithApproversAndReason`. -/
  | approvalWithApproversAndReason
  /-- `security.ClientApproval`. -/
  | clientApproval
  /-- `security.HuntApproval`. -/
  | huntApproval
  /-- `security.CronJobApproval`. -/
  | cronJobApproval
  /-- Any other class, which derives from `AFF4Object` alone. -/
  | other (name : String)
  deriving DecidableEq, Repr

namespace AFF4Type

/-- The class and its ancestors, as Python's method resolution order lists them. -/
def mro : AFF4Type → List AFF4Type
  -- The three concrete approvals share the generic approval and its abstract base.
  | .clientApproval => [.clientApproval, .approvalWithApproversAndReason, .approval, .aff4Object]
  | .huntApproval => [.huntApproval, .approvalWithApproversAndReason, .approval, .aff4Object]
  | .cronJobApproval => [.cronJobApproval, .approvalWithApproversAndReason, .approval, .aff4Object]
  | .approvalWithApproversAndReason => [.approvalWithApproversAndReason, .approval, .aff4Object]
  | .approval => [.approval, .aff4Object]
  | .vfsGrrClient => [.vfsGrrClient, .aff4Volume, .aff4Object]
  | .aff4Volume => [.aff4Volume, .aff4Object]
  | .aff4Object => [.aff4Object]
  | type => [type, .aff4Object]

/-- `isinstance(obj, cls)` for an object of this class. -/
def isinstance (type cls : AFF4Type) : Bool :=
  cls ∈ type.mro

/-- Every class is an instance of itself. -/
@[simp] theorem isinstance_self (type : AFF4Type) : type.isinstance type = true := by
  cases type <;> simp [isinstance, mro]

/-- Only a user is an instance of the user class. -/
theorem eq_grrUser_of_isinstance {type : AFF4Type} (isUser : type.isinstance .grrUser = true) : type = .grrUser := by
  cases type <;> simp_all [isinstance, mro]

/-- The class name an error message prints. -/
def name : AFF4Type → String
  | .aff4Object => "AFF4Object"
  | .aff4Volume => "AFF4Volume"
  | .aff4Symlink => "AFF4Symlink"
  | .grrUser => "GRRUser"
  | .vfsGrrClient => "VFSGRRClient"
  | .approval => "Approval"
  | .approvalWithApproversAndReason => "ApprovalWithApproversAndReason"
  | .clientApproval => "ClientApproval"
  | .huntApproval => "HuntApproval"
  | .cronJobApproval => "CronJobApproval"
  | .other name => name

end AFF4Type

/-- `rdf_flows.Notification`, as `GRRUser.Notify` is handed it. -/
structure Notification where
  /-- The notification type, `GrantAccess` or `ViewObject` here. -/
  type : String
  /-- The URN the notification points the user to. -/
  subject : RDFURN
  /-- The text shown to the user. -/
  message : String
  /-- The notification's source, empty here. -/
  source : String
  deriving DecidableEq

/--
Modelled from the spec: the attribute cells stored under one URN.

A URN's cells are read through the union of every schema the object had, so one record holds
the attributes of each class the approval code opens.
-/
structure Cells where
  /-- `AFF4Object.SchemaCls.TYPE`: the class the object was written as. -/
  type : History AFF4Type
  /-- `Approval.SchemaCls.REQUESTOR`. -/
  requestor : History String
  /-- `Approval.SchemaCls.APPROVER`: one version per grant. -/
  approver : History String
  /-- `Approval.SchemaCls.SUBJECT`. -/
  subject : History RDFURN
  /-- `Approval.SchemaCls.REASON`. -/
  reason : History String
  /-- `Approval.SchemaCls.EMAIL_MSG_ID`. -/
  emailMsgId : History String
  /-- `Approval.SchemaCls.EMAIL_CC`. -/
  emailCc : History String
  /-- `Approval.SchemaCls.NOTIFIED_USERS`. -/
  notifiedUsers : History String
  /-- `ApprovalWithApproversAndReason.SchemaCls.LIFETIME`, in seconds. -/
  lifetime : History Int
  /-- `ApprovalWithApproversAndReason.SchemaCls.BREAK_GLASS`, the date break-glass access ends. -/
  breakGlass : History Int
  /-- The names in the object's `LABELS` list, of a user or of a client. -/
  labels : History (List String)
  /-- `VFSGRRClient.SchemaCls.HOSTNAME`. -/
  hostname : History String
  /-- `AFF4Symlink.SchemaCls.SYMLINK_TARGET`. -/
  symlinkTarget : History RDFURN
  /-- `GRRUser.SchemaCls.PENDING_NOTIFICATIONS`. -/
  pendingNotifications : History (List Notification)

namespace Cells

/-- The cells of a URN nothing was written under. -/
def empty : Cells :=
  ⟨.empty, .empty, .empty, .empty, .empty, .empty, .empty, .empty, .empty, .empty, .empty, .empty,
    .empty, .empty⟩

/-- What an object opened at `NEWEST_TIME` loads: the newest version of each cell. -/
def latest (cells : Cells) : Cells :=
  ⟨cells.type.latest, cells.requestor.latest, cells.approver.latest, cells.subject.latest,
    cells.reason.latest, cells.emailMsgId.latest, cells.emailCc.latest, cells.notifiedUsers.latest,
    cells.lifetime.latest, cells.breakGlass.latest, cells.labels.latest, cells.hostname.latest,
    cells.symlinkTarget.latest, cells.pendingNotifications.latest⟩

end Cells

/-- The version filter an object is opened with. -/
inductive Age where
  /-- `aff4.ALL_TIMES`: every version of every attribute. -/
  | allTimes
  /-- `aff4.NEWEST_TIME`: only the newest version of each attribute, the default. -/
  | newestTime
  deriving DecidableEq

/-- The fields of `access_control.ACLToken` the approval code reads and sets. -/
structure ACLToken where
  /-- Whose credentials these are. -/
  username : String
  /-- The reason given for the access. -/
  reason : Option String
  /-- The access being requested, `None` on a token built for a check. -/
  requestedAccess : Option String := none
  /-- Set when a break-glass approval let the token through. -/
  isEmergency : Bool := false
  deriving DecidableEq

/-- The exceptions the approval code and its API router raise or let through. -/
inductive Error where
  /-- `access_control.UnauthorizedAccess(message, subject, requested_access)`. -/
  | unauthorizedAccess (message : String) (subject : Option RDFURN) (requestedAccess : Option String)
  /-- `security.ErrorClientDoesNotExist`. -/
  | errorClientDoesNotExist (message : String)
  /-- `NotImplementedError`, raised by the abstract approval classes. -/
  | notImplementedError
  /-- `ValueError`, raised by a constructor's argument check or a failed tuple unpacking. -/
  | valueError (message : String)
  /-- `type_info.TypeValueError`, raised for a malformed client URN. -/
  | typeValueError (message : String)
  /-- `aff4.InstantiationError`, an `IOError`: the object is missing or of another class. -/
  | instantiationError (message : String)
  /-- `AttributeError`, raised by reading an attribute of `None`. -/
  | attributeError (message : String)
  /-- What `email_alerts.EMAIL_ALERTER.SendEmail` raises when a mail cannot be sent; `email_alerts` is not under src/. -/
  | emailNotSent (message : String)
  /-- `api_call_handler_base.ResourceNotFoundError`, raised by the API router for a missing object. -/
  | resourceNotFoundError (message : String)
  deriving DecidableEq

/-- The message an exception prints as, what `str(e)` gives. -/
def Error.message : Error → String
  | .unauthorizedAccess message _ _ => message
  | .errorClientDoesNotExist message => message
  | .notImplementedError => ""
  | .valueError message => message
  | .typeValueError message => message
  | .instantiationError message => message
  | .attributeError message => message
  | .emailNotSent message => message
  | .resourceNotFoundError message => message

/-- Modelled from the spec: the substrate's rows, each URN's cells, and the child index. -/
structure Store where
  /-- The cells under each URN. -/
  cells : RDFURN → Cells
  /-- The child index: the names of each URN's children, in the order they were entered. -/
  index : RDFURN → List String

/-- An object as opened: its URN, the symlink it was reached through, its class, and its cells as loaded. -/
structure AFF4Object where
  /-- The object's own URN, the target's when it was opened through a symlink. -/
  urn : RDFURN
  /-- `symlink_urn`: the symlink it was opened through. -/
  symlinkUrn : Option RDFURN
  /-- The class its newest `TYPE` names. -/
  aff4Type : AFF4Type
  /-- The cells as loaded for the age it was opened at. -/
  cells : Cells

namespace Store

/-- The store of a substrate nothing was written to. -/
def empty : Store :=
  ⟨fun _ => .empty, fun _ => []⟩

/-- Modelled from the spec: the object stored under a URN, which exists once it has a `TYPE`. -/
def load (store : Store) (urn : RDFURN) (age : Age) : Option AFF4Object :=
  (store.cells urn).type.newest.map fun type =>
    ⟨urn, none, type.value, match age with
      | .allTimes => store.cells urn
      | .newestTime => (store.cells urn).latest⟩

/-- Modelled from the spec: a symlink resolves once, to its target, which remembers the symlink. -/
def resolve (store : Store) (urn : RDFURN) (age : Age) : Option AFF4Object :=
  match store.load urn age with
  | none => none
  | some object =>
    if object.aff4Type = .aff4Symlink then
      match object.cells.symlinkTarget.newest with
      | some target =>
        (store.load target.value age).map fun resolved => { resolved with symlinkUrn := some urn }
      | none => some object
    else some object

/--
Modelled from the spec: `FACTORY.Open(urn, aff4_type, age)`.

It fails when nothing is stored under the URN, and when a class is asked for and the object is
not an instance of it.
-/
def «open» (store : Store) (urn : RDFURN) (aff4Type : Option AFF4Type) (age : Age) :
    Except Error AFF4Object :=
  match store.resolve urn age with
  | none => .error (.instantiationError ("Object " ++ urn.toString ++ " does not exist."))
  | some object =>
    match aff4Type with
    | none => .ok object
    | some cls =>
      if object.aff4Type.isinstance cls then .ok object
      else .error (.instantiationError ("Object " ++ urn.toString ++ " is of type " ++
        object.aff4Type.name ++ ", but required_type is " ++ cls.name))

/-- Modelled from the spec: `FACTORY.MultiOpen`, which leaves out every URN `Open` would fail on. -/
def multiOpen (store : Store) (urns : List RDFURN) (aff4Type : Option AFF4Type) (age : Age) :
    List AFF4Object :=
  urns.filterMap fun urn => (store.open urn aff4Type age).toOption

/-- Modelled from the spec: `FACTORY.ListChildren(urn)`, read from the child index. -/
def listChildren (store : Store) (urn : RDFURN) : List RDFURN :=
  (store.index urn).map urn.add

/-- Modelled from the spec: flushing an object writes its pending attributes into its URN's cells. -/
def write (store : Store) (urn : RDFURN) (update : Cells → Cells) : Store :=
  { store with cells := Function.update store.cells urn (update (store.cells urn)) }

/-- The component right below an ancestor on a URN's way down from the root. -/
def childOnPath (urn parent : RDFURN) : Option String :=
  if parent.components <+: urn.components then urn.components[parent.components.length]?
  else none

/-- Modelled from the spec: a created object is entered in its parent's child index, each ancestor in its own parent's. -/
def updateChildIndex (store : Store) (urn : RDFURN) : Store :=
  { store with index := fun parent =>
      match childOnPath urn parent with
      | some name => if name ∈ store.index parent then store.index parent else store.index parent ++ [name]
      | none => store.index parent }

/--
Modelled from the spec: `FACTORY.Create(urn, aff4_type)` with the attributes set on it, then
`Close()`; the class is written as a new `TYPE` version and the URN is entered in the index.
-/
def create (store : Store) (urn : RDFURN) (aff4Type : AFF4Type) (now : Int) (update : Cells → Cells) :
    Store :=
  (store.updateChildIndex urn).write urn fun cells => update { cells with type := cells.type.add aff4Type now }

/-- Writing one URN's cells leaves the child index alone. -/
@[simp] theorem write_index (store : Store) (urn : RDFURN) (update : Cells → Cells) :
    (store.write urn update).index = store.index := rfl

/-- Writing one URN's cells updates them. -/
@[simp] theorem write_cells_self (store : Store) (urn : RDFURN) (update : Cells → Cells) :
    (store.write urn update).cells urn = update (store.cells urn) := by
  simp [write]

/-- Writing one URN's cells leaves every other URN's alone. -/
@[simp] theorem write_cells_other (store : Store) {urn other : RDFURN} (update : Cells → Cells)
    (different : other ≠ urn) : (store.write urn update).cells other = store.cells other := by
  simp [write, different]

/-- Entering a URN in the index leaves every cell alone. -/
@[simp] theorem updateChildIndex_cells (store : Store) (urn : RDFURN) :
    (store.updateChildIndex urn).cells = store.cells := rfl

/-- The children listed are the indexed names under the parent. -/
theorem mem_listChildren (store : Store) (parent child : RDFURN) :
    child ∈ store.listChildren parent ↔ ∃ name ∈ store.index parent, parent.add name = child := by
  simp [listChildren]

/-- A component entered in the child index is one of the URN's own. -/
theorem childOnPath_mem {urn parent : RDFURN} {name : String} (onPath : childOnPath urn parent = some name) :
    name ∈ urn.components := by
  unfold childOnPath at onPath
  split at onPath
  · exact List.getElem?_mem onPath
  · cases onPath

/-- Entering a URN in the index adds to each ancestor's children at most the component on the URN's path. -/
theorem mem_updateChildIndex_index {store : Store} {urn parent : RDFURN} {name : String} :
    name ∈ (store.updateChildIndex urn).index parent ↔
      name ∈ store.index parent ∨ childOnPath urn parent = some name := by
  show name ∈ (match childOnPath urn parent with
    | some child => if child ∈ store.index parent then store.index parent else store.index parent ++ [child]
    | none => store.index parent) ↔ _
  cases childOnPath urn parent with
  | none => simp
  | some child =>
    by_cases present : child ∈ store.index parent
    · simp only [present, if_true, Option.some.injEq]
      exact ⟨.inl, fun held => held.elim id fun same => same ▸ present⟩
    · simp [present, eq_comm]

/-- An object opens only where a class is stored, and, unless that is a symlink, as itself with that class. -/
theorem open_ok_type {store : Store} {urn : RDFURN} {cls : Option AFF4Type} {age : Age} {object : AFF4Object}
    (opened : store.open urn cls age = .ok object) :
    ∃ version, (store.cells urn).type.newest = some version ∧
      (version.value ≠ .aff4Symlink → object.urn = urn ∧ object.aff4Type = version.value) := by
  -- Opening resolves the URN first, and resolving a URN of no class fails.
  unfold Store.open Store.resolve Store.load at opened
  cases newest : (store.cells urn).type.newest with
  | none => simp [newest] at opened
  | some version =>
    refine ⟨version, rfl, fun notLink => ?_⟩
    simp only [newest, Option.map_some', notLink, if_false] at opened
    split at opened <;> (try split at opened) <;> cases opened <;> exact ⟨rfl, rfl⟩

/-- A loaded object is the one at its URN, of the newest class stored there. -/
theorem load_newest {store : Store} {urn : RDFURN} {age : Age} {object : AFF4Object}
    (loaded : store.load urn age = some object) :
    object.urn = urn ∧ ∃ version, (store.cells urn).type.newest = some version ∧ version.value = object.aff4Type := by
  unfold load at loaded
  cases newest : (store.cells urn).type.newest with
  | none => simp [newest] at loaded
  | some version =>
    simp only [newest, Option.map_some', Option.some.injEq] at loaded
    subst loaded
    exact ⟨rfl, version, rfl, rfl⟩

/-- An opened object has the newest class stored under its own URN, a symlink's target's when it was reached through one. -/
theorem open_ok_newest {store : Store} {urn : RDFURN} {cls : Option AFF4Type} {age : Age} {object : AFF4Object}
    (opened : store.open urn cls age = .ok object) :
    ∃ version, (store.cells object.urn).type.newest = some version ∧ version.value = object.aff4Type := by
  -- Whatever resolving returns was loaded, from the URN or from the symlink's target.
  have resolved : ∃ found, store.resolve urn age = some found ∧ found = object := by
    unfold «open» at opened
    split at opened
    · cases opened
    · split at opened <;> (try split at opened) <;> cases opened <;> exact ⟨_, ‹_›, rfl⟩
  obtain ⟨found, resolvedIs, rfl⟩ := resolved
  unfold resolve at resolvedIs
  cases loaded : store.load urn age with
  | none => simp [loaded] at resolvedIs
  | some first =>
    obtain ⟨rfl, newest⟩ := load_newest loaded
    simp only [loaded] at resolvedIs
    split at resolvedIs
    · split at resolvedIs
      · obtain ⟨target, targetLoaded, rfl⟩ := Option.map_eq_some'.mp resolvedIs
        obtain ⟨targetUrn, targetNewest⟩ := load_newest targetLoaded
        exact targetUrn ▸ targetNewest
      · cases resolvedIs
        exact newest
    · cases resolvedIs
      exact newest

/-- `MultiOpen` returns exactly the objects `Open` succeeds with on one of the URNs. -/
theorem mem_multiOpen (store : Store) (urns : List RDFURN) (aff4Type : Option AFF4Type) (age : Age)
    (object : AFF4Object) :
    object ∈ store.multiOpen urns aff4Type age ↔ ∃ urn ∈ urns, store.open urn aff4Type age = .ok object := by
  -- An opening that fails becomes no option, and one that succeeds becomes its object.
  simp only [multiOpen, List.mem_filterMap]
  refine exists_congr fun urn => and_congr_right fun _ => ?_
  cases store.open urn aff4Type age <;> simp [Except.toOption]

/-- An object opened as a class is an instance of it. -/
theorem open_isinstance {store : Store} {urn : RDFURN} {cls : AFF4Type} {age : Age}
    {object : AFF4Object} (opened : store.open urn (some cls) age = .ok object) :
    object.aff4Type.isinstance cls := by
  -- Only the branch that found an instance of the class succeeds.
  unfold «open» at opened
  cases resolved : store.resolve urn age with
  | none => simp [resolved] at opened
  | some found =>
    simp only [resolved] at opened
    split at opened
    · cases opened
      assumption
    · cases opened

/-- A stored object whose newest class is not a symlink opens as itself. -/
theorem open_ok_load {store : Store} {urn : RDFURN} {cls : Option AFF4Type} {age : Age} {object : AFF4Object}
    {version : Versioned AFF4Type} (opened : store.open urn cls age = .ok object)
    (newest : (store.cells urn).type.newest = some version) (notLink : version.value ≠ .aff4Symlink) :
    store.load urn age = some object := by
  -- Without a symlink to follow, resolving is loading, and a class test only lets the object through.
  unfold «open» resolve at opened
  simp only [Store.load, newest, Option.map_some', notLink, if_false] at opened ⊢
  split at opened <;> (try split at opened) <;> cases opened <;> rfl

/-- An object that loads as itself, of a class not the symlink's, opens as any class it is an instance of. -/
theorem open_of_load {store : Store} {urn : RDFURN} {age : Age} {object : AFF4Object} {cls : AFF4Type}
    (loaded : store.load urn age = some object) (notLink : object.aff4Type ≠ .aff4Symlink)
    (isInstance : object.aff4Type.isinstance cls = true) : store.open urn (some cls) age = .ok object := by
  simp [Store.open, Store.resolve, loaded, notLink, isInstance]

/-- The reason of an object that opened as itself is its URN's newest reason, at any age. -/
theorem load_reason {store : Store} {urn : RDFURN} {age : Age} {object : AFF4Object}
    (loaded : store.load urn age = some object) : object.cells.reason.newest = (store.cells urn).reason.newest := by
  unfold Store.load at loaded
  cases newest : (store.cells urn).type.newest <;> simp only [newest, Option.map_none', Option.map_some',
    Option.some.injEq, reduceCtorEq] at loaded
  subst loaded
  cases age <;> simp [Cells.latest]

/-- A URN whose newest class is not a symlink opens as any class that one is an instance of. -/
theorem open_of_newest {store : Store} {urn : RDFURN} {version : Versioned AFF4Type} {cls : AFF4Type}
    (age : Age) (newest : (store.cells urn).type.newest = some version) (notLink : version.value ≠ .aff4Symlink)
    (isInstance : version.value.isinstance cls = true) : ∃ object, store.open urn (some cls) age = .ok object := by
  unfold «open» resolve load
  simp [newest, notLink, isInstance]

/-- An object opened as a user is stored at its own URN with the user class newest. -/
theorem open_grrUser_newest {store : Store} {urn : RDFURN} {age : Age} {user : AFF4Object}
    (opened : store.open urn (some .grrUser) age = .ok user) :
    ∃ version, (store.cells user.urn).type.newest = some version ∧ version.value = .grrUser := by
  obtain ⟨version, newest, typeIs⟩ := open_ok_newest opened
  exact ⟨version, newest, typeIs.trans (AFF4Type.eq_grrUser_of_isinstance (open_isinstance opened))⟩

/-- Opening an object again at its own URN, when it is no symlink, gives an object of that URN. -/
theorem open_reopen_urn {store : Store} {urn : RDFURN} {cls cls' : Option AFF4Type} {age age' : Age}
    {object reopened : AFF4Object} (opened : store.open urn cls age = .ok object)
    (notLink : object.aff4Type ≠ .aff4Symlink) (again : store.open object.urn cls' age' = .ok reopened) :
    reopened.urn = object.urn := by
  obtain ⟨version, newest, typeIs⟩ := open_ok_newest opened
  obtain ⟨version', newest', itself⟩ := open_ok_type again
  rw [newest, Option.some.injEq] at newest'
  subst newest'
  exact (itself (typeIs ▸ notLink)).1

end Store

end GrrAcl
