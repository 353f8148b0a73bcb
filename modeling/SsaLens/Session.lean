import SsaLens.Build
import SsaLens.View

/-! # Sessions

A session rebuilds the listing of one function. The file that its first dump named is
remembered, and later reports are asked for that file.
-/

namespace SsaLens

/-- What a rebuild brings. -/
structure Snapshot where
  dump : Dump
  report : Report

/-- The event that brings a snapshot to the views of a file. -/
def Snapshot.event (snapshot : Snapshot) (fileName : String) (line : Option UInt32) : ViewEvent :=
  .replace snapshot.dump.rows snapshot.report line fileName

/-- Where and how to rebuild the listing of a function. -/
structure Session where
  directory : String
  function : String
  fileName : String
  deriving DecidableEq

namespace Session

/-- Build a listing and then the report of the file it names, and start a session with its view. -/
def start (compiler : Compiler) (directory function : String) :
    Traced (Except ExplorerError (Session × View)) := do
  match ← compiler.loadDump directory function with
  | .error error => pure (.error error)
  | .ok dump =>
      let report ← compiler.loadReport directory dump.fileName
      pure (.ok (⟨directory, function, dump.fileName⟩, View.ofDump function dump report))

/-- Build the listing and the report of the remembered file again. Neither build waits for the
other, so both run even if one fails. -/
def refresh (compiler : Compiler) (session : Session) :
    Traced (Except ExplorerError Snapshot) := do
  let dump ← compiler.loadDump session.directory session.function
  let report ← compiler.loadReport session.directory session.fileName
  match dump with
  | .error error => pure (.error error)
  | .ok dump => pure (.ok ⟨dump, report⟩)

end Session

end SsaLens
