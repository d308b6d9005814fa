import CrosswireNm.Library.Tokens
import CrosswireNm.Service.CertTrust

/-!
# What a transcript says about the gateway's certificate

The scanner accumulates two facts over the lines it is fed. Here they are read off the transcript
as a whole: whether some line rejects the certificate, and which digest is presented first.
-/

namespace CrosswireNm.Service

open CrosswireNm.Library

/-- The line carries crosswire's rejection. -/
def Rejects (line : String) : Prop := untrustedMarker.toList <:+: line.toList

def Mentions (line : String) : Prop :=
  "digest".toList <:+: line.toList ∨ "trusted-cert".toList <:+: line.toList

def isDigest (run : List Char) : Bool := run.length == 64 && run.all (fun c => !c.isUpper)

/-- The line mentions a digest, and `digest` is its leftmost maximal run of hex digits that can
be one. -/
def Presents (line digest : String) : Prop :=
  Mentions line ∧ ∃ before after,
    FirstRun (fun c => !isAsciiHexdigit c) isDigest line.toList before digest.toList after

def ShowsDigest (line : String) : Prop :=
  Mentions line ∧ ∃ before run after,
    MaximalRun (fun c => !isAsciiHexdigit c) line.toList before run after ∧ isDigest run = true

def scan (lines : List String) : CertScanner := lines.foldl CertScanner.observe {}

def presented (line : String) : Option String :=
  if contains line "digest" || contains line "trusted-cert" then extractSha256 line else none

private theorem isLowerHexdigit_eq {c : Char} (h : isAsciiHexdigit c = true) :
    isLowerHexdigit c = !c.isUpper := by
  have hle : ∀ a b : Char, (a ≤ b) ↔ a.val.toNat ≤ b.val.toNat := fun a b => Iff.rfl
  have hupper : c.isUpper = decide (c.val ≥ 'A'.val ∧ c.val ≤ 'Z'.val) := rfl
  simp only [isAsciiHexdigit, isLowerHexdigit, hupper, hle, Bool.or_eq_true,
    Bool.and_eq_true, decide_eq_true_eq] at h ⊢
  rw [Bool.eq_iff_iff]
  simp only [Bool.or_eq_true, Bool.and_eq_true, decide_eq_true_eq, Bool.not_eq_true',
    decide_eq_false_iff_not, ge_iff_le, UInt32.le_iff_toNat_le]
  simp at h ⊢
  omega

private theorem test_eq_isDigest (run : List Char)
    (hrun : Clean (fun c => !isAsciiHexdigit c) run) :
    (run.length == 64 && run.all isLowerHexdigit) = isDigest run := by
  have hall : run.all isLowerHexdigit = run.all (fun c => !c.isUpper) := by
    rw [Bool.eq_iff_iff, List.all_eq_true, List.all_eq_true]
    refine forall_congr' fun c => forall_congr' fun hc => ?_
    rw [isLowerHexdigit_eq (by simpa using hrun c hc)]
  rw [isDigest, hall]

private theorem extractSha256_iff (line digest : String) :
    extractSha256 line = some digest ↔ ∃ before after,
      FirstRun (fun c => !isAsciiHexdigit c) isDigest line.toList before digest.toList after := by
  have hfind : (line.toList.splitOnP (fun c => !isAsciiHexdigit c)).find?
      (fun run => run.length == 64 && run.all isLowerHexdigit) = some digest.toList ↔ _ :=
    find_splitOnP
  simp only [FirstRun.congr test_eq_isDigest] at hfind
  rw [← hfind, extractSha256, Option.map_eq_some_iff]
  constructor
  · rintro ⟨run, hrun, rfl⟩
    rw [String.toList_ofList]
    exact hrun
  · intro h
    exact ⟨digest.toList, h, String.ofList_toList⟩

theorem presented_iff (line digest : String) :
    presented line = some digest ↔ Presents line digest := by
  have hmentions : (contains line "digest" || contains line "trusted-cert") = true ↔
      Mentions line := by
    simp only [contains, Mentions, Bool.or_eq_true, decide_eq_true_eq]
  unfold presented
  split
  · rename_i h
    rw [extractSha256_iff, Presents, and_iff_right (hmentions.mp h)]
  · rename_i h
    refine iff_of_false (by simp) ?_
    intro hpresents
    exact h (hmentions.mpr hpresents.1)

theorem showsDigest_iff (line : String) :
    ShowsDigest line ↔ ∃ digest, Presents line digest := by
  simp only [ShowsDigest, Presents, exists_and_left]
  refine and_congr_right fun _ => ?_
  constructor
  · rintro ⟨before, run, after, hmax, hpass⟩
    have hmem := mem_splitOnP.mpr ⟨before, after, hmax⟩
    have hsome := List.find?_isSome.mpr ⟨run, hmem, hpass⟩
    obtain ⟨first, hfirst⟩ := Option.isSome_iff_exists.mp hsome
    refine ⟨String.ofList first, ?_⟩
    rw [String.toList_ofList]
    exact find_splitOnP.mp hfirst
  · rintro ⟨digest, before, after, hfirst⟩
    exact ⟨before, digest.toList, after, hfirst.maximal, hfirst.passes⟩

private theorem observe_eq (scanner : CertScanner) (line : String) :
    scanner.observe line =
      { untrusted := scanner.untrusted || contains line untrustedMarker
        digest := scanner.digest.or (presented line) } := by
  cases hdigest : scanner.digest with
  | none => simp [CertScanner.observe, presented, hdigest]
  | some digest => simp [CertScanner.observe, hdigest]

private theorem foldl_observe (lines : List String) (scanner : CertScanner) :
    lines.foldl CertScanner.observe scanner =
      { untrusted := scanner.untrusted || lines.any (contains · untrustedMarker)
        digest := scanner.digest.or (lines.findSome? presented) } := by
  induction lines generalizing scanner with
  | nil => simp
  | cons line lines ih =>
    rw [List.foldl_cons, ih, observe_eq]
    cases hline : presented line <;> simp [hline, Bool.or_assoc]

/-- The verdict of a transcript: rejected by some line, and the first digest presented. -/
theorem certChange_scan (lines : List String) (digest : String) :
    (scan lines).certChange = some digest ↔
      (∃ line ∈ lines, Rejects line) ∧ lines.findSome? presented = some digest := by
  have huntrusted : lines.any (contains · untrustedMarker) = true ↔
      ∃ line ∈ lines, Rejects line := by
    simp only [contains, Rejects, List.any_eq_true, decide_eq_true_eq]
  rw [scan, foldl_observe]
  cases hany : lines.any (contains · untrustedMarker) with
  | true => simp [CertScanner.certChange, hany, ← huntrusted]
  | false => simp [CertScanner.certChange, hany, ← huntrusted]

/-- Some line presents the digest, and no line before it presents any. -/
def FirstPresented (lines : List String) (digest : String) : Prop :=
  ∃ before line after, lines = before ++ line :: after ∧ Presents line digest ∧
    ∀ earlier ∈ before, ∀ other, ¬ Presents earlier other

private theorem presented_eq_none (line : String) :
    presented line = none ↔ ∀ digest, ¬ Presents line digest := by
  simp only [Option.eq_none_iff_forall_ne_some, ne_eq, presented_iff]

private theorem findSome_presented (lines : List String) (digest : String) :
    lines.findSome? presented = some digest ↔ FirstPresented lines digest := by
  simp only [List.findSome?_eq_some_iff, presented_iff, presented_eq_none, FirstPresented]

theorem certChange_iff (lines : List String) (digest : String) :
    (scan lines).certChange = some digest ↔
      (∃ line ∈ lines, Rejects line) ∧ FirstPresented lines digest := by
  rw [certChange_scan, findSome_presented]

theorem certChange_isSome_iff (lines : List String) :
    (scan lines).certChange ≠ none ↔
      (∃ line ∈ lines, Rejects line) ∧ ∃ line ∈ lines, ShowsDigest line := by
  rw [Option.ne_none_iff_exists']
  simp only [certChange_scan, exists_and_left]
  refine and_congr_right fun _ => ?_
  rw [← Option.ne_none_iff_exists', ne_eq, List.findSome?_eq_none_iff]
  simp only [presented_eq_none, not_forall, not_not, exists_prop, showsDigest_iff]

private theorem certChange_perm {lines lines' : List String} (h : lines.Perm lines') :
    (scan lines).certChange = none ↔ (scan lines').certChange = none := by
  rw [← not_iff_not, ← ne_eq, ← ne_eq, certChange_isSome_iff, certChange_isSome_iff]
  simp only [h.mem_iff]

private theorem certChange_perm_eq {lines lines' : List String} (h : lines.Perm lines')
    (hsame : ∀ line ∈ lines, ∀ line' ∈ lines, ∀ digest digest',
      Presents line digest → Presents line' digest' → digest = digest') :
    (scan lines).certChange = (scan lines').certChange := by
  cases hfirst : (scan lines).certChange with
  | none => exact ((certChange_perm h).mp hfirst).symm
  | some digest =>
    obtain ⟨digest', hfirst'⟩ : ∃ digest', (scan lines').certChange = some digest' := by
      apply Option.ne_none_iff_exists'.mp
      intro hnone
      rw [(certChange_perm h).mpr hnone] at hfirst
      cases hfirst
    obtain ⟨before, line, after, hlines, hpresents, _⟩ := ((certChange_iff _ _).mp hfirst).2
    obtain ⟨before', line', after', hlines', hpresents', _⟩ := ((certChange_iff _ _).mp hfirst').2
    have hmem : line ∈ lines := by simp [hlines]
    have hmem' : line' ∈ lines := h.mem_iff.mpr (by simp [hlines'])
    rw [hsame line hmem line' hmem' digest digest' hpresents hpresents', hfirst']

theorem certChange_append {lines : List String} {digest : String}
    (h : (scan lines).certChange = some digest) (more : List String) :
    (scan (lines ++ more)).certChange = some digest := by
  rw [certChange_scan] at h ⊢
  obtain ⟨⟨line, hmem, hrejects⟩, hfirst⟩ := h
  refine ⟨⟨line, List.mem_append_left _ hmem, hrejects⟩, ?_⟩
  rw [List.findSome?_append, hfirst]
  rfl

/-- What a transcript makes of the scanner: the verdict and its digest, any two orders of the
lines, and any lines that come later. -/
theorem certChange_transcript :
    (∀ lines digest, (scan lines).certChange = some digest ↔
      (∃ line ∈ lines, Rejects line) ∧ FirstPresented lines digest) ∧
    (∀ lines, (scan lines).certChange ≠ none ↔
      (∃ line ∈ lines, Rejects line) ∧ ∃ line ∈ lines, ShowsDigest line) ∧
    (∀ lines lines', lines.Perm lines' →
      ((scan lines).certChange = none ↔ (scan lines').certChange = none) ∧
      ((∀ line ∈ lines, ∀ line' ∈ lines, ∀ digest digest',
          Presents line digest → Presents line' digest' → digest = digest') →
        (scan lines).certChange = (scan lines').certChange)) ∧
    (∀ lines digest, (scan lines).certChange = some digest →
      ∀ more, (scan (lines ++ more)).certChange = some digest) :=
  ⟨certChange_iff, certChange_isSome_iff,
    fun _ _ h => ⟨certChange_perm h, certChange_perm_eq h⟩, fun _ _ h => certChange_append h⟩

/-- A digest on standard output and the rejection on standard error, with a line to follow. -/
theorem certChange_transcript_hint :
    (scan ["sha256 digest: e34e0d64da8ad0f6cb47a66e6bc9100a2d6ac3636455e12e89dd8663e0f5cf96",
      "Error: gateway certificate not trusted", "digest: none"]).certChange =
      some "e34e0d64da8ad0f6cb47a66e6bc9100a2d6ac3636455e12e89dd8663e0f5cf96" :=
  certChange_transcript.2.2.2
    ["sha256 digest: e34e0d64da8ad0f6cb47a66e6bc9100a2d6ac3636455e12e89dd8663e0f5cf96",
      "Error: gateway certificate not trusted"] _ (by decide +kernel) ["digest: none"]

end CrosswireNm.Service
