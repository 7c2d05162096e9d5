import WireScribe.Path

/-!
# WireScribe.Config — the names that generated code uses

`Settings` are texts as they are given, and `Config` holds the identifiers and
paths they stand for.
-/

namespace WireScribe

/-- The settings, as texts. -/
structure Settings where
  /-- The writer's name in generated code. -/
  writer : String := "output"
  /-- The path of the wire tags. -/
  wireTypePath : String := "ironthrift::WireType"
  /-- The path of the library that generated code calls. -/
  runtimePath : String := "ironthrift"
  /-- The greatest nesting of containers that is accepted. -/
  maxDepth : Option Nat := none
deriving Repr, DecidableEq

/-- The names and limits of a generator. -/
structure Config where
  writer : Ident := ⟨false, "output"⟩
  wireTypePath : Path :=
    { segments := [{ ident := ⟨false, "ironthrift"⟩ }, { ident := ⟨false, "WireType"⟩ }] }
  runtimePath : Path := { segments := [{ ident := ⟨false, "ironthrift"⟩ }] }
  maxDepth : Option Nat := none
deriving Repr, DecidableEq

/-- Reads the settings: the writer's name first, then the two paths, whose generic
arguments are left to a reader. -/
def Settings.buildWith (reader : ArgumentReader) (s : Settings) : Except GenError Config := do
  let writer ← unreservedIdent s.writer
  let wireTypePath ← Path.ofText reader s.wireTypePath
  let runtimePath ← Path.ofText reader s.runtimePath
  return { writer, wireTypePath, runtimePath, maxDepth := s.maxDepth }

/-- Reads settings with the one reader that is spelled out, which knows generic arguments
that are built of paths and tuples. -/
def Settings.build (s : Settings) : Except GenError Config := s.buildWith .plain

end WireScribe
