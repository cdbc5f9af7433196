import TypeFlow.Editor.Basic

/-!
# Caches, checkers, engines and workspaces

An engine draft collects what a new engine should be like.  A checker given
to it wins over a cache; without either the engine gets its own.
-/

namespace TypeFlow

structure EngineDraft where
  settings : Settings := {}
  cache : Option CacheId := none
  checker : Option CheckerId := none

namespace Editor

variable {σ : Type}

/-- The name under which every workspace offers to wire a block. -/
def wireExtension : String := "type_from"

def newCache : EditM σ CacheId := do
  let id : CacheId := ⟨← look fun editor => editor.caches.size⟩
  modify fun editor => { editor with caches := editor.caches.insert id {} }
  return id

/-- A checker on a cache, on a new one if none is given. -/
def newChecker (cache : Option CacheId) : EditM σ CheckerId := do
  let cache ← match cache with
    | some cache => pure cache
    | none => newCache
  let id : CheckerId := ⟨← look fun editor => editor.checkers.size⟩
  modify fun editor => { editor with
    checkers := editor.checkers.insert id cache }
  return id

def newEngine (draft : EngineDraft) : EditM σ EngineId := do
  let config ← lookup fun _ => draft.settings.validate
  let checker ← match draft.checker with
    | some checker => pure checker
    | none => newChecker draft.cache
  let id : EngineId := ⟨← look fun editor => editor.engines.size⟩
  let engine : Engine :=
    { config, checker, guard := { maxDepth := config.maxDepth } }
  modify fun editor => { editor with
    engines := editor.engines.insert id engine }
  return id

/-- A workspace wired by an engine, by a new one if none is given. -/
def newWorkspace (engine : Option EngineId) (isTemplate : Bool) :
    EditM σ WorkspaceId := do
  let engine ← match engine with
    | some engine => pure engine
    | none => newEngine {}
  let id : WorkspaceId := ⟨← look fun editor => editor.workspaces.size⟩
  let workspace : Workspace :=
    { engine, isTemplate, extensions := ⟨[(wireExtension, .wire)]⟩ }
  modify fun editor => { editor with
    workspaces := editor.workspaces.insert id workspace }
  return id

end Editor

end TypeFlow
