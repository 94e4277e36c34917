/-
# Connections

A connection names a source of tables: a driver and what that driver needs to reach the source.

Saved work belongs to the physical source and not to the name it was reached by, so it is kept
under the connection's *context*: a digest of the driver and the connection string.
-/

import JoinWizard.Json.Basic
import JoinWizard.Sha256

namespace JoinWizard

/-- A source of tables, under a display name. -/
structure Connection where
  name : String
  driver : String
  connectionString : String
  /-- The schema to use while none has been picked. -/
  defaultSchema : Option String := none
  deriving DecidableEq, Repr

namespace Connection

/-- The bytes a context is the digest of: the driver, a zero byte, the connection string. -/
def contextBytes (c : Connection) : List UInt8 :=
  c.driver.toUTF8.toList ++ 0 :: c.connectionString.toUTF8.toList

/-- The context of a connection, in hexadecimal digits. -/
def context (c : Connection) : String := Sha256.hexDigest c.contextBytes

instance : JsonCodec Connection where
  encode c := .ofFields [
    ("name", some (encode c.name)),
    ("driver", some (encode c.driver)),
    ("connection_string", some (encode c.connectionString)),
    ("default_schema", c.defaultSchema.map encode)]
  decode v := do
    let field ← v.record? ["name", "driver", "connection_string", "default_schema"]
    return {
      name := ← JsonCodec.required (field "name")
      driver := ← JsonCodec.required (field "driver")
      connectionString := ← JsonCodec.required (field "connection_string")
      defaultSchema := ← JsonCodec.optional (field "default_schema") }

end Connection

end JoinWizard
