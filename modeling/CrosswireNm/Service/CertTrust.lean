import Mathlib.Data.List.Infix

/-!
# Detecting a certificate that is not trusted

The scanner is fed every line crosswire prints; its verdict decides what an exit means.
-/

namespace CrosswireNm.Service

def contains (line pattern : String) : Bool := decide (pattern.toList <:+: line.toList)

def untrustedMarker : String := "gateway certificate not trusted"

def isAsciiHexdigit (c : Char) : Bool :=
  ('0' ≤ c && c ≤ '9') || ('a' ≤ c && c ≤ 'f') || ('A' ≤ c && c ≤ 'F')

def isLowerHexdigit (c : Char) : Bool := ('0' ≤ c && c ≤ '9') || ('a' ≤ c && c ≤ 'f')

/-- The first maximal run of hex digits that is 64 long and lower case. -/
def extractSha256 (line : String) : Option String :=
  ((line.toList.splitOnP (fun c => !isAsciiHexdigit c)).find?
    (fun tok => tok.length == 64 && tok.all isLowerHexdigit)).map String.ofList

structure CertScanner where
  untrusted : Bool := false
  digest : Option String := none
  deriving DecidableEq, Repr

def CertScanner.observe (scanner : CertScanner) (line : String) : CertScanner :=
  { untrusted := scanner.untrusted || contains line untrustedMarker
    digest :=
      if scanner.digest.isNone && (contains line "digest" || contains line "trusted-cert") then
        extractSha256 line
      else scanner.digest }

/-- The presented digest, if crosswire also rejected the certificate. -/
def CertScanner.certChange (scanner : CertScanner) : Option String :=
  if scanner.untrusted then scanner.digest else none

inductive ExitAction
  | retry
  | promptCert (digest : String)
  | fail
  deriving DecidableEq, Repr

/-- What to do about an exit the service did not ask for. -/
def classifyExit (certChange : Option String) (fast connecting : Bool)
    (retries maxRetries : Nat) : ExitAction :=
  match connecting, certChange with
  | true, some digest => .promptCert digest
  | _, _ => if retries < maxRetries && fast && connecting then .retry else .fail

theorem classifyExit_retry {certChange : Option String} {fast connecting : Bool}
    {retries maxRetries : Nat}
    (h : classifyExit certChange fast connecting retries maxRetries = .retry) :
    connecting = true ∧ certChange = none ∧ fast = true ∧ retries < maxRetries := by
  cases connecting <;> cases certChange <;> simp [classifyExit] at h ⊢
  exact ⟨h.2, h.1⟩

theorem classifyExit_promptCert {certChange : Option String} {fast connecting : Bool}
    {retries maxRetries : Nat} {digest : String}
    (h : classifyExit certChange fast connecting retries maxRetries = .promptCert digest) :
    connecting = true ∧ certChange = some digest := by
  cases connecting <;> cases certChange <;> simp only [classifyExit] at h
  case true.some => exact ⟨rfl, congrArg some (ExitAction.promptCert.inj h)⟩
  all_goals split at h <;> cases h

end CrosswireNm.Service
