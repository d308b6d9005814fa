import CrosswireNm.Properties.ImportFortinet

/-!
# Which connection a FortiClient file yields

The connections of a document are read off its tree; the importer sees callbacks only.
-/

namespace CrosswireNm.Properties

open Library

/-- What a connection says about each field; a field given twice counts as given last. -/
structure Fields where
  name : Option String := none
  description : Option String := none
  server : Option String := none
  username : Option String := none
  sso : Option Bool := none
  deriving DecidableEq, Repr

def Fields.over (c earlier : Fields) : Fields :=
  { name := c.name.or earlier.name
    description := c.description.or earlier.description
    server := c.server.or earlier.server
    username := c.username.or earlier.username
    sso := c.sso.or earlier.sso }

def Fields.only (field : FField) (val : String) : Fields :=
  match field with
  | .none => {}
  | .name => { name := some val }
  | .description => { description := some val }
  | .server => { server := some val }
  | .username => { username := some val }
  | .sso => { sso := some (ssoEnabled val) }

@[simp] theorem Fields.empty_over (c : Fields) : Fields.over {} c = c := rfl

def Fields.usable (c : Fields) : Bool := filled c.server

/-- The importer's place in a document: whether it takes itself to be in a section, what it has read
of the connection it takes itself to be in, and the connections it has been through. -/
structure View where
  inSslvpn : Bool := false
  current : Option Fields := none
  seen : List Fields := []
  deriving DecidableEq, Repr

/-- Any `<connection>` counts, at any depth below any `<sslvpn>`. -/
def View.start (v : View) (name : String) : View :=
  if name = "sslvpn" then { v with inSslvpn := true }
  else if v.inSslvpn && name = "connection" then { v with current := some (v.current.getD {}) }
  else v

/-- Any `</connection>` ends it, also that of a nested one. -/
def View.stop (v : View) (name : String) : View :=
  if name = "connection" then { v with current := none, seen := v.seen ++ v.current.toList }
  else if name = "sslvpn" then { v with inSslvpn := false }
  else v

def View.field (v : View) (field : FField) (val : String) : View :=
  { v with current := v.current.map (Fields.only field val).over }

/-- The importer's way through the content. A leaf says what is outside its CDATA sections. -/
def viewOf : Content String Char → View → View
  | .nil, v => v
  | .text _ rest, v | .cdata _ rest, v => viewOf rest v
  | .element name children rest, v =>
    viewOf rest
      (if v.current ≠ none ∧ fieldFor name ≠ .none then
        v.field (fieldFor name) (strstrip children.leafText)
      else (viewOf children (v.start name)).stop name)

def seen (doc : Content String Char) : List Fields := (viewOf doc {}).seen

/-- The parser between leaves: `kept` is what its accumulators hold. -/
def idle (kept : Fields) (done inSslvpn inConnection : Bool) (text : List Char) : FParse :=
  { inSslvpn, inConnection, done, text
    name := kept.name
    description := kept.description
    server := kept.server
    username := kept.username
    sso := kept.sso.getD false }

def reading (kept : Fields) (done inSslvpn : Bool) (field : FField) (data : List Char) : FParse :=
  { idle kept done inSslvpn true data with reading := field }

section Leaves

variable {kept : Fields} {done inSslvpn inConnection : Bool} {text : List Char} {name : String}

end Leaves

/-! ## The parser follows the view -/

structure Found where
  kept : Fields := {}
  done : Bool := false

/-- Before the first usable server every connection is read over what was kept. -/
def Found.visit (found : Found) (c : Fields) : Found :=
  if found.done then found else ⟨c.over found.kept, filled (c.over found.kept).server⟩

def View.found (v : View) : Found := v.seen.foldl Found.visit {}

/-- The parser between leaves. Once it is done it takes no notice of connections. -/
def View.parse (v : View) (text : List Char) : FParse :=
  if v.found.done then idle v.found.kept true v.inSslvpn false text
  else idle ((v.current.getD {}).over v.found.kept) false v.inSslvpn v.current.isSome text

section Steps

variable {v : View} {name : String} {text : List Char}

end Steps

section Ends

variable {v : View} {name : String}

end Ends

section Layout

variable {inSslvpn : Bool} {before : List Fields} {content : Content String Char} {name : String}
  {marked : String → Bool} {fine : Content String Char → Bool}
  {fields : Content String Char → List Fields}

end Layout

end CrosswireNm.Properties
