/-
# The text of a store

A store is kept in a file as JSON: its version, and its rows by name.  A file that is empty or holds
a single byte is a new store.
-/

import JoinWizard.Store

namespace JoinWizard

namespace StoreRow

instance : JsonCodec StoreRow where
  encode r := .ofFields [
    ("context", some (encode r.context)),
    ("config", some (encode r.config)),
    ("properties", some (encode r.properties)),
    ("updated_at", some (encode r.updatedAt))]
  decode v := do
    let field ← v.record? ["context", "config", "properties", "updated_at"]
    return {
      context := ← JsonCodec.required (field "context")
      config := ← JsonCodec.required (field "config")
      properties := ← JsonCodec.required (field "properties")
      updatedAt := ← JsonCodec.required (field "updated_at") }

end StoreRow

namespace Store

instance : JsonCodec Store where
  encode s := .ofFields [("version", s.version.map encode), ("rows", some (encode s.rows))]
  decode v := do
    let field ← v.record? ["version", "rows"]
    return {
      version := ← JsonCodec.optional (field "version")
      rows := ← JsonCodec.required (field "rows") }

/-- The text of a store's file. -/
def fileText (s : Store) : String := toJsonText s

/-- The store that a file's text holds. -/
def ofFileText (text : String) : Except StoreError Store :=
  if text.utf8ByteSize ≤ 1 then .ok {}
  else
    match ofJsonText text with
    | .ok s => .ok s
    | .error _ => .error .notAStore

end Store

end JoinWizard
