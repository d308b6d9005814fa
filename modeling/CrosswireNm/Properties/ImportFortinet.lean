import CrosswireNm.Library.Xml

/-!
# The FortiClient importer

A push parser reports the file as callbacks; the importer keeps the fields of a connection in
five accumulators that are written as leaf elements end.
-/

namespace CrosswireNm.Properties

open Library

/-- The data items of a VPN setting in the order they were added; a later item replaces an
earlier one with its key. -/
abbrev SettingVpn := List (String × String)

def addDataItem (sVpn : SettingVpn) (key value : String) : SettingVpn := sVpn ++ [(key, value)]

/-- The direct child of `<connection>` whose text is being read. -/
inductive FField
  | none
  | name
  | description
  | server
  | username
  | sso
  deriving DecidableEq, Repr

structure FParse where
  inSslvpn : Bool := false
  inConnection : Bool := false
  done : Bool := false
  reading : FField := .none
  text : List Char := []
  name : Option String := none
  description : Option String := none
  server : Option String := none
  username : Option String := none
  sso : Bool := false
  deriving DecidableEq, Repr

def fieldFor (name : String) : FField :=
  if name = "name" then .name
  else if name = "description" then .description
  else if name = "server" then .server
  else if name = "username" then .username
  else if name = "sso_enabled" then .sso
  else .none

def startElement (p : FParse) (name : String) : FParse :=
  if name = "sslvpn" then { p with inSslvpn := true }
  else if p.inSslvpn && !p.done && name = "connection" then { p with inConnection := true }
  else if p.inConnection then
    match fieldFor name with
    | .none => p
    | field => { p with reading := field, text := [] }
  else p

def textCb (p : FParse) (chunk : List Char) : FParse :=
  if p.reading ≠ .none then { p with text := p.text ++ chunk } else p

/-- `g_ascii_isspace`, which leaves out the vertical tab. -/
def isAsciiSpace (c : Char) : Bool :=
  c = ' ' || c = '\t' || c = '\n' || c = '\r' || c = Char.ofNat 12

def strstrip (text : List Char) : String :=
  String.ofList (((text.dropWhile isAsciiSpace).reverse.dropWhile isAsciiSpace).reverse)

/-- Only `1` and `true`, in any case, switch SSO on. -/
def ssoEnabled (val : String) : Bool :=
  val = "1" || val.toList.map Char.toLower = "true".toList

def FParse.store (p : FParse) (field : FField) (val : String) : FParse :=
  match field with
  | .none => p
  | .name => { p with name := some val }
  | .description => { p with description := some val }
  | .server => { p with server := some val }
  | .username => { p with username := some val }
  | .sso => { p with sso := ssoEnabled val }

def commitLeaf (p : FParse) : FParse :=
  { p.store p.reading (strstrip p.text) with reading := .none }

def filled (s : Option String) : Bool := s.getD "" ≠ ""

def endElement (p : FParse) (name : String) : FParse :=
  let p := if p.reading ≠ .none then commitLeaf p else p
  if p.inConnection && name = "connection" then
    { p with inConnection := false, done := p.done || filled p.server }
  else if name = "sslvpn" then { p with inSslvpn := false }
  else p

def parserStep (p : FParse) : Callback String Char → FParse
  | .start name => startElement p name
  | .text chunk => textCb p chunk
  | .stop name => endElement p name

/-- `strrchr(server, ':')`: what stands before and after the last colon. -/
def lastColon : List Char → Option (List Char × List Char)
  | [] => none
  | c :: rest =>
    match lastColon rest with
    | some (host, tail) => some (c :: host, tail)
    | none => if c = ':' then some ([], rest) else none

theorem lastColon_eq_none {text : List Char} : lastColon text = none ↔ ':' ∉ text := by
  induction text with
  | nil => simp [lastColon]
  | cons c text ih =>
    cases hrest : lastColon text with
    | some parts =>
      have hmem : ':' ∈ text := by
        by_contra hnot
        rw [ih.mpr hnot] at hrest
        cases hrest
      simp [lastColon, hrest, hmem]
    | none =>
      have hnot := ih.mp hrest
      by_cases hc : c = ':'
      · simp [lastColon, hrest, hc]
      · simp [lastColon, hrest, hc, hnot, Ne.symm hc]

theorem lastColon_split {text host port : List Char} (h : lastColon text = some (host, port)) :
    text = host ++ ':' :: port ∧ ':' ∉ port := by
  induction text generalizing host with
  | nil => cases h
  | cons c text ih =>
    cases hrest : lastColon text with
    | some parts =>
      obtain ⟨host', port'⟩ := parts
      simp only [lastColon, hrest, Option.some.injEq, Prod.mk.injEq] at h
      obtain ⟨rfl, rfl⟩ := h
      obtain ⟨htext, hport⟩ := ih hrest
      exact ⟨by rw [htext, List.cons_append], hport⟩
    | none =>
      simp only [lastColon, hrest] at h
      split at h
      · rename_i hc
        cases h
        exact ⟨by rw [hc, List.nil_append], lastColon_eq_none.mp hrest⟩
      · cases h

/-- Splits `host:port` when the tail is all digits. -/
def applyServer (sVpn : SettingVpn) (server : String) : SettingVpn :=
  match lastColon server.toList with
  | some (host, port) =>
    if port ≠ [] && port.all Char.isDigit then
      addDataItem (addDataItem sVpn "gateway" (String.ofList host)) "port" (String.ofList port)
    else addDataItem sVpn "gateway" server
  | none => addDataItem sVpn "gateway" server

def PortText (port : List Char) : Prop := port ≠ [] ∧ ∀ c ∈ port, c.isDigit = true

theorem PortText.not_mem_colon {port : List Char} (h : PortText port) : ':' ∉ port :=
  fun hmem => absurd (h.2 ':' hmem) (by decide)

theorem append_colon_inj {host host' port port' : List Char}
    (h : host ++ ':' :: port = host' ++ ':' :: port') (hport : ':' ∉ port) (hport' : ':' ∉ port') :
    host = host' ∧ port = port' := by
  induction host generalizing host' with
  | nil =>
    cases host' with
    | nil => exact ⟨rfl, (List.cons.inj h).2⟩
    | cons c host' =>
      have hrest := (List.cons.inj h).2
      exact absurd (by rw [hrest]; simp) hport
  | cons c host ih =>
    cases host' with
    | nil =>
      have hrest := (List.cons.inj h).2
      exact absurd (by rw [← hrest]; simp) hport'
    | cons c' host' =>
      obtain ⟨hc, hrest⟩ := List.cons.inj h
      obtain ⟨hhost, htail⟩ := ih hrest
      exact ⟨by rw [hc, hhost], htail⟩

/-- A server is split at its last colon if a port stands behind it, and is a gateway as it is
otherwise. -/
theorem applyServer_cases (sVpn : SettingVpn) (server : String) :
    (∃ host port, server.toList = host ++ ':' :: port ∧ PortText port ∧
      applyServer sVpn server =
        sVpn ++ [("gateway", String.ofList host)] ++ [("port", String.ofList port)]) ∨
    ((∀ host port, server.toList = host ++ ':' :: port → ¬ PortText port) ∧
      applyServer sVpn server = sVpn ++ [("gateway", server)]) := by
  unfold applyServer addDataItem
  cases hcolon : lastColon server.toList with
  | none =>
    right
    refine ⟨?_, rfl⟩
    intro host port hserver _
    apply lastColon_eq_none.mp hcolon
    rw [hserver]
    simp
  | some parts =>
    obtain ⟨host, port⟩ := parts
    obtain ⟨hserver, hlast⟩ := lastColon_split hcolon
    dsimp only
    split
    · rename_i hdigits
      simp only [Bool.and_eq_true, decide_eq_true_eq, List.all_eq_true] at hdigits
      left
      exact ⟨host, port, hserver, hdigits, rfl⟩
    · rename_i hdigits
      simp only [Bool.and_eq_true, decide_eq_true_eq, List.all_eq_true] at hdigits
      right
      refine ⟨?_, rfl⟩
      intro host' port' hserver' hport
      rw [hserver] at hserver'
      obtain ⟨_, rfl⟩ := append_colon_inj hserver' hlast hport.not_mem_colon
      exact hdigits hport

/-- SSO means SAML, and only a password login has use for the user name. -/
def applyAuth (sVpn : SettingVpn) (p : FParse) : SettingVpn :=
  let sVpn := addDataItem sVpn "auth-type" (if p.sso then "saml" else "password")
  if !p.sso && filled p.username then addDataItem sVpn "user" (p.username.getD "") else sVpn

def FParse.outId (p : FParse) : Option String :=
  if filled p.name then p.name else if filled p.description then p.description else none

/-- What the markup parser makes of a file: its callbacks, and the error it stopped with. -/
structure Markup where
  callbacks : List (Callback String Char)
  error : Option String := none

/-- The data items and the id taken from a file, or why there are none. -/
def fortinetParse (sVpn : SettingVpn) (markup : Markup) :
    Except String (SettingVpn × Option String) :=
  let p := markup.callbacks.foldl parserStep {}
  match markup.error with
  | some error => .error error
  | none =>
    if filled p.server then
      .ok (applyAuth (applyServer sVpn (p.server.getD "")) p, p.outId)
    else .error "no SSL-VPN connection found in FortiClient config"

end CrosswireNm.Properties
