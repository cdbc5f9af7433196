import TypeFlow.Editor.Notify

/-!
# Connections

An output and an input of different blocks can be linked when their checks
are compatible.  Linking, unlinking and changing a check call the listeners of
both ends.
-/

namespace TypeFlow.Editor

variable {σ : Type}

/-- The workspace of the block a connection belongs to. -/
def connectionWorkspace (editor : Editor σ) (connection : ConnectionId) :
    WorkspaceId :=
  (editor.block (editor.connection connection).block).workspace

def setTarget (editor : Editor σ) (connection : ConnectionId)
    (target : Option ConnectionId) :
    Editor σ :=
  editor.updateConnection connection fun entry => { entry with target }

def setCheck (editor : Editor σ) (connection : ConnectionId)
    (check : Check) : Editor σ :=
  editor.updateConnection connection fun entry => { entry with check }

/-- Replaces a check and tells whether it accepts other types now.  If so,
whoever listens to the other end is called. -/
def setConnectionTypes (react : Reaction σ) (connection : ConnectionId)
    (check : Check) :
    EditM σ Bool := do
  let entry ← look (·.connection connection)
  modify (·.setCheck connection check.distinct)
  if Check.same entry.check check.distinct then return false
  match entry.target with
  | none => return true
  | some far =>
      let workspace ← look (·.connectionWorkspace connection)
      let key ← look fun editor => (editor.connection far).key
      discard (notify react workspace key)
      return true

/-- Calls the listeners of a connection and then those of another one, in the
workspace of the first. -/
def notifyEnds (react : Reaction σ) (this other : ConnectionId) :
    EditM σ Unit := do
  let workspace ← look (·.connectionWorkspace this)
  let thisKey ← look fun editor => (editor.connection this).key
  discard (notify react workspace thisKey)
  let otherKey ← look fun editor => (editor.connection other).key
  discard (notify react workspace otherKey)

def disconnect (react : Reaction σ) (this : ConnectionId) : EditM σ Unit := do
  match ← look fun editor => (editor.connection this).target with
  | none => return
  | some other =>
      modify fun editor => (editor.setTarget this none).setTarget other none
      notifyEnds react this other

/-- Whether two checks share a type or one of them accepts all. -/
def shareType : Check → Check → Bool
  | some this, some other => this.any other.contains
  | _, _ => true

/-- Whether the checks of two connections are compatible, by the checker of a
workspace. -/
def canConnect (workspace : WorkspaceId) (this other : ConnectionId) :
    EditM σ Bool := do
  let editor ← get
  let cache := editor.cacheOf (editor.workspace workspace).engine
  let thisCheck := (editor.connection this).check
  let otherCheck := (editor.connection other).check
  let verdict :=
    (editor.cache cache).relax thisCheck otherCheck
      (shareType thisCheck otherCheck)
  set (editor.setCache cache verdict.2)
  return verdict.1

/-- Whether the blocks and directions of two connections fit. -/
def canFace (editor : Editor σ) (this other : ConnectionId) : Bool :=
  let thisEntry := editor.connection this
  let otherEntry := editor.connection other
  this ≠ other && thisEntry.block ≠ otherEntry.block
    && thisEntry.isOutput != otherEntry.isOutput

def canConnectWith (this other : ConnectionId) : EditM σ Bool := do
  if ← look (·.canFace this other) then
    canConnect (← look (·.connectionWorkspace this)) this other
  else return false

/-- Links two connections, after unlinking whatever either was linked to. -/
def connect (react : Reaction σ) (this other : ConnectionId) : EditM σ Unit :=
  do
  if (← look fun editor => (editor.connection this).target) = some other
    then return
  if ← canConnectWith this other then
    disconnect react this
    disconnect react other
    modify fun editor => (editor.setTarget this (some other)).setTarget
      other (some this)
    notifyEnds react this other
  else
    let thisEntry ← look (·.connection this)
    let otherEntry ← look (·.connection other)
    throw (.incompatible thisEntry.key thisEntry.check otherEntry.key
      otherEntry.check)

end TypeFlow.Editor
