import CrosswireNm.Library.Machine
import CrosswireNm.Service.CertLines
import Mathlib.Data.List.ReduceOption
import Mathlib.Data.List.TakeWhile

/-!
# The two readers of crosswire's output

One task reads each pipe and feeds the scanner line by line; the watcher waits for both tasks
before it asks for a verdict. The labels are the turns of the tasks.
-/

namespace CrosswireNm.Service

open CrosswireNm.Library

inductive Stream
  | stdout
  | stderr
  deriving DecidableEq, Repr

def decodeUtf8 (bytes : List UInt8) : Option String := String.fromUTF8? bytes.toByteArray

/-- A line that ends in a line feed also loses one carriage return in front of it. -/
def stripCr (line : String) : String :=
  if line.toList.getLast? = some '\r' then String.ofList line.toList.dropLast else line

def lineFeed : UInt8 := 10

inductive NextLine
  | eof
  | error
  | line (text : String) (rest : List UInt8)
  deriving DecidableEq, Repr

def nextLine (bytes : List UInt8) : NextLine :=
  if bytes = [] then .eof
  else
    match decodeUtf8 (bytes.takeWhile (· != lineFeed)), bytes.dropWhile (· != lineFeed) with
    | none, _ => .error
    | some text, [] => .line text []
    | some text, _ :: rest => .line (stripCr text) rest

inductive Reader
  | reading (left : List UInt8)
  | ended
  deriving DecidableEq, Repr

/-- What the watcher does about the exit of its child: `drain_loggers`, then the verdict. -/
inductive Drain
  | waiting
  | joining (left : List Stream)
  | classified (verdict : Option String)
  deriving DecidableEq, Repr

/-- The readers of one run of crosswire, their scanner and the watcher. -/
structure Readers where
  reader : Stream → Reader
  scanner : CertScanner := {}
  drain : Drain := .waiting

inductive ReaderLabel
  | turn (stream : Stream)
  | exit
  | join
  | timeout
  | classify
  deriving DecidableEq, Repr

abbrev Fed := Stream × String

def Readers.turn (s : Readers) (stream : Stream) : Option (Readers × List Fed) :=
  match s.reader stream with
  | .ended => none
  | .reading left =>
    match nextLine left with
    | .line text rest =>
      some ({ s with
        reader := Function.update s.reader stream (.reading rest)
        scanner := s.scanner.observe text }, [(stream, text)])
    | _ => some ({ s with reader := Function.update s.reader stream .ended }, [])

def Readers.step : Step Readers ReaderLabel Fed := fun s label =>
  match label, s.drain with
  | .turn stream, _ => s.turn stream
  | .exit, .waiting => some ({ s with drain := .joining [.stdout, .stderr] }, [])
  | .join, .joining (stream :: left) =>
    if s.reader stream = .ended then some ({ s with drain := .joining left }, []) else none
  | .timeout, .joining (_ :: left) => some ({ s with drain := .joining left }, [])
  | .classify, .joining [] => some ({ s with drain := .classified s.scanner.certChange }, [])
  | _, _ => none

def Readers.start (output : Stream → List UInt8) : Readers :=
  { reader := fun stream => .reading (output stream) }

def inTime : List Fed → Readers → ReaderLabel → Prop := fun _ _ label => label ≠ .timeout

/-- The lines of a stream, each with its text if it is valid UTF-8. What follows the last line
feed is a line if there is anything. -/
def streamLines (bytes : List UInt8) : List (Option String) :=
  let pieces := bytes.splitOnP (· == lineFeed)
  pieces.dropLast.map (fun piece => (decodeUtf8 piece).map stripCr) ++
    match pieces.getLast? with
    | none | some [] => []
    | some piece => [decodeUtf8 piece]

def validLines (bytes : List UInt8) : List String := (streamLines bytes).reduceOption

def fedBy (stream : Stream) (history : List Fed) : List String :=
  (history.filter (fun fed => fed.1 = stream)).map Prod.snd

/-- Whatever the interleaving, when the watcher classifies the exit after both readers ended, the
scanner has been fed every valid line, and a rejection that shows its digest is detected. -/
def Detects (output : Stream → List UInt8) : Prop :=
  ∀ history s verdict, Run Readers.step inTime (.start output) history s →
    s.drain = .classified verdict →
    (∀ stream, fedBy stream history = validLines (output stream)) ∧
      ((∃ stream, ∃ line ∈ validLines (output stream), Rejects line) →
        (∃ stream, ∃ line ∈ validLines (output stream), ShowsDigest line) → verdict ≠ none)

/-- A line that is not valid UTF-8 stands before a valid one. -/
def LosesLines (bytes : List UInt8) : Prop :=
  ∃ before after, streamLines bytes = before ++ none :: after ∧ ∃ text, some text ∈ after

section Lines

private def untilGap : List (Option String) → List String
  | some text :: rest => text :: untilGap rest
  | _ => []

private theorem untilGap_eq_iff (lines : List (Option String)) :
    untilGap lines = lines.reduceOption ↔
      ¬ ∃ before after, lines = before ++ none :: after ∧ ∃ text, some text ∈ after := by
  induction lines with
  | nil => simp [untilGap]
  | cons line lines ih =>
    cases line with
    | none =>
      have hnone : untilGap (none :: lines) = [] := rfl
      rw [hnone, List.reduceOption_cons_of_none]
      constructor
      · rintro hempty ⟨before, after, hsplit, text, htext⟩
        have hmem : some text ∈ lines := by
          cases before with
          | nil => exact (List.cons.inj hsplit).2 ▸ htext
          | cons first before =>
            rw [(List.cons.inj hsplit).2]
            exact List.mem_append_right _ (List.mem_cons_of_mem _ htext)
        rw [← List.reduceOption_mem_iff, ← hempty] at hmem
        cases hmem
      · intro hno
        symm
        rw [List.eq_nil_iff_forall_not_mem]
        intro text htext
        exact hno ⟨[], lines, rfl, text, List.reduceOption_mem_iff.mp htext⟩
    | some text =>
      have hcons : untilGap (some text :: lines) = text :: untilGap lines := rfl
      rw [hcons, List.reduceOption_cons_of_some, List.cons_inj_right, ih]
      apply not_congr
      constructor
      · rintro ⟨before, after, rfl, htext⟩
        exact ⟨some text :: before, after, rfl, htext⟩
      · rintro ⟨before, after, hsplit, htext⟩
        cases before with
        | nil => cases (List.cons.inj hsplit).1
        | cons first before => exact ⟨before, after, (List.cons.inj hsplit).2, htext⟩

private theorem mem_of_untilGap {lines : List (Option String)} {line : String}
    (h : line ∈ untilGap lines) : line ∈ lines.reduceOption := by
  induction lines with
  | nil => cases h
  | cons first lines ih =>
    cases first with
    | none => cases h
    | some text =>
      rw [List.reduceOption_cons_of_some]
      rcases List.mem_cons.mp h with rfl | hrest
      · exact List.mem_cons_self
      · exact List.mem_cons_of_mem _ (ih hrest)

private theorem streamLines_nil : streamLines [] = [] := rfl

private theorem streamLines_clean {bytes : List UInt8} (hclean : Clean (· == lineFeed) bytes)
    (hne : bytes ≠ []) : streamLines bytes = [decodeUtf8 bytes] := by
  unfold streamLines
  rw [List.splitOnP_eq_singleton hclean]
  cases bytes with
  | nil => exact absurd rfl hne
  | cons byte bytes => rfl

private theorem streamLines_cut {line rest : List UInt8} (hclean : Clean (· == lineFeed) line) :
    streamLines (line ++ lineFeed :: rest) =
      (decodeUtf8 line).map stripCr :: streamLines rest := by
  have hpieces : (line ++ lineFeed :: rest).splitOnP (· == lineFeed) =
      line :: rest.splitOnP (· == lineFeed) :=
    List.splitOnP_append_cons_of_forall_mem hclean lineFeed (by simp) rest
  unfold streamLines
  rw [hpieces]
  obtain ⟨piece, pieces, hrest⟩ :=
    List.exists_cons_of_ne_nil (List.splitOnP_ne_nil (· == lineFeed) rest)
  rw [hrest]
  simp

private theorem nextLine_spec (bytes : List UInt8) :
    match nextLine bytes with
    | .eof => streamLines bytes = []
    | .error => ∃ lines, streamLines bytes = none :: lines
    | .line text rest => streamLines bytes = some text :: streamLines rest ∧
        rest.length < bytes.length := by
  induction bytes using cut_induction (· == lineFeed) with
  | clean bytes hclean =>
    by_cases hne : bytes = []
    · simp [nextLine, hne, streamLines_nil]
    · have htake : bytes.takeWhile (· != lineFeed) = bytes := by
        rw [List.takeWhile_eq_self_iff]
        intro byte hbyte
        simpa using hclean byte hbyte
      have hdrop : bytes.dropWhile (· != lineFeed) = [] := by
        rw [List.dropWhile_eq_nil_iff]
        intro byte hbyte
        simpa using hclean byte hbyte
      have hlength : 0 < bytes.length := List.length_pos_of_ne_nil hne
      cases hdecode : decodeUtf8 bytes with
      | none => simp [nextLine, hne, htake, hdrop, hdecode, streamLines_clean hclean hne]
      | some text =>
        simp [nextLine, hne, htake, hdrop, hdecode, streamLines_clean hclean hne,
          streamLines_nil, hlength]
  | cut line feed rest hclean hfeed _ =>
    obtain rfl : feed = lineFeed := by simpa using hfeed
    have htest : ∀ byte ∈ line, (byte != lineFeed) = true := by
      intro byte hbyte
      simpa using hclean byte hbyte
    have htake : (line ++ lineFeed :: rest).takeWhile (· != lineFeed) = line := by
      rw [List.takeWhile_append_of_pos htest]
      simp
    have hdrop : (line ++ lineFeed :: rest).dropWhile (· != lineFeed) = lineFeed :: rest := by
      rw [List.dropWhile_append_of_pos htest]
      simp
    have hne : line ++ lineFeed :: rest ≠ [] := by simp
    have hlines : streamLines (line ++ lineFeed :: rest) = _ := streamLines_cut hclean
    cases hdecode : decodeUtf8 line with
    | none =>
      simp only [nextLine, hne, if_false, htake, hdrop, hdecode, hlines]
      exact ⟨_, rfl⟩
    | some text =>
      simp only [nextLine, hne, if_false, htake, hdrop, hdecode, hlines]
      refine ⟨rfl, ?_⟩
      rw [List.length_append, List.length_cons]
      omega

end Lines

section Runs

variable {output : Stream → List UInt8}

@[simp] theorem fedBy_append (stream : Stream) (history more : List Fed) :
    fedBy stream (history ++ more) = fedBy stream history ++ fedBy stream more := by
  simp [fedBy]

@[simp] theorem fedBy_self (stream : Stream) (text : String) :
    fedBy stream [(stream, text)] = [text] := by
  simp [fedBy]

theorem fedBy_other {stream stream' : Stream} (h : stream' ≠ stream) (text : String) :
    fedBy stream [(stream', text)] = [] := by
  simp [fedBy, h]

def Readers.Joined (s : Readers) : Prop :=
  match s.drain with
  | .waiting => True
  | .joining left => ∀ stream, stream ∈ left ∨ s.reader stream = .ended
  | .classified verdict =>
    (∀ stream, s.reader stream = .ended) ∧ verdict = s.scanner.certChange

/-- What a reader has fed and will still feed is its stream up to the first line that is not
valid UTF-8, and the scanner has seen the history. -/
structure Readers.Inv (output : Stream → List UInt8) (history : List Fed) (s : Readers) : Prop where
  fed : ∀ stream, fedBy stream history ++
    (match s.reader stream with
      | .reading left => untilGap (streamLines left)
      | .ended => []) = untilGap (streamLines (output stream))
  scanned : s.scanner = scan (history.map Prod.snd)
  joined : s.Joined

private theorem scan_snoc (lines : List String) (line : String) :
    scan (lines ++ [line]) = (scan lines).observe line := by
  simp [scan]

private theorem turn_cases {s t : Readers} {stream : Stream} {out : List Fed}
    (h : s.turn stream = some (t, out)) :
    ∃ left, s.reader stream = .reading left ∧
      ((untilGap (streamLines left) = [] ∧ out = [] ∧
          t = { s with reader := Function.update s.reader stream .ended }) ∨
        ∃ text rest, untilGap (streamLines left) = text :: untilGap (streamLines rest) ∧
          rest.length < left.length ∧ out = [(stream, text)] ∧
          t = { s with
            reader := Function.update s.reader stream (.reading rest)
            scanner := s.scanner.observe text }) := by
  unfold Readers.turn at h
  cases hreader : s.reader stream with
  | ended => simp [hreader] at h
  | reading left =>
    refine ⟨left, rfl, ?_⟩
    have hspec := nextLine_spec left
    rw [hreader] at h
    cases hnext : nextLine left with
    | eof =>
      simp only [hnext, Option.some.injEq, Prod.mk.injEq] at h hspec
      exact Or.inl ⟨by rw [hspec]; rfl, h.2.symm, h.1.symm⟩
    | error =>
      simp only [hnext, Option.some.injEq, Prod.mk.injEq] at h hspec
      obtain ⟨lines, hlines⟩ := hspec
      exact Or.inl ⟨by rw [hlines]; rfl, h.2.symm, h.1.symm⟩
    | line text rest =>
      simp only [hnext, Option.some.injEq, Prod.mk.injEq] at h hspec
      exact Or.inr ⟨text, rest, by rw [hspec.1]; rfl, hspec.2, h.2.symm, h.1.symm⟩

/-- While some reader is not done, readers that end change nothing about who is joined. -/
private theorem Readers.Joined.keep {s t : Readers} (hs : s.Joined) (hdrain : t.drain = s.drain)
    {stream : Stream} {left : List UInt8} (hreading : s.reader stream = .reading left)
    (hended : ∀ stream', s.reader stream' = .ended → t.reader stream' = .ended) : t.Joined := by
  unfold Readers.Joined at hs ⊢
  rw [hdrain]
  cases hd : s.drain with
  | waiting => trivial
  | joining left =>
    simp only [hd] at hs
    intro stream'
    exact (hs stream').imp_right (hended stream')
  | classified verdict =>
    simp only [hd] at hs
    have hdone := hs.1 stream
    rw [hreading] at hdone
    cases hdone

private theorem Readers.Inv.turn {history : List Fed} {s t : Readers} {stream : Stream}
    {out : List Fed} (hs : s.Inv output history) (h : s.turn stream = some (t, out)) :
    t.Inv output (history ++ out) := by
  obtain ⟨left, hreader, ⟨hnil, rfl, rfl⟩ | ⟨text, rest, hcons, _, rfl, rfl⟩⟩ := turn_cases h
  · refine ⟨?_, by simpa using hs.scanned, hs.joined.keep rfl hreader ?_⟩
    · intro stream'
      have hfed := hs.fed stream'
      by_cases heq : stream' = stream
      · subst heq
        simpa [hreader, hnil] using hfed
      · simpa [Function.update_of_ne heq] using hfed
    · intro stream' hended
      by_cases heq : stream' = stream
      · simp [heq]
      · simpa [Function.update_of_ne heq] using hended
  · refine ⟨?_, by simp [hs.scanned, scan_snoc], hs.joined.keep rfl hreader ?_⟩
    · intro stream'
      have hfed := hs.fed stream'
      by_cases heq : stream' = stream
      · subst heq
        simpa [hreader, hcons] using hfed
      · simpa [Function.update_of_ne heq, fedBy_other (Ne.symm heq)] using hfed
    · intro stream' hended
      have hne : stream' ≠ stream := by
        rintro rfl
        simp [hreader] at hended
      simpa [Function.update_of_ne hne] using hended

private theorem Readers.Inv.step {history : List Fed} {s t : Readers} {label : ReaderLabel}
    {out : List Fed} (hs : s.Inv output history) (hlabel : label ≠ .timeout)
    (h : Readers.step s label = some (t, out)) : t.Inv output (history ++ out) := by
  have hsilent : ∀ drain, Readers.Joined { s with drain := drain } →
      Readers.Inv output (history ++ []) { s with drain := drain } := by
    intro drain hjoined
    rw [List.append_nil]
    exact ⟨hs.fed, hs.scanned, hjoined⟩
  have hjoined := hs.joined
  unfold Readers.step at h
  split at h
  · exact hs.turn h
  · cases h
    apply hsilent
    intro stream
    cases stream <;> simp
  · rename_i stream left hdrain
    split at h
    · rename_i hended
      cases h
      apply hsilent
      simp only [Readers.Joined, hdrain, List.mem_cons] at hjoined ⊢
      intro stream'
      rcases hjoined stream' with (rfl | hmem) | hstream'
      · exact Or.inr hended
      · exact Or.inl hmem
      · exact Or.inr hstream'
    · cases h
  · exact absurd rfl hlabel
  · rename_i hdrain
    cases h
    apply hsilent
    simp only [Readers.Joined, hdrain] at hjoined ⊢
    exact ⟨fun stream => (hjoined stream).resolve_left List.not_mem_nil, trivial⟩
  · cases h

theorem Readers.inv {history : List Fed} {s : Readers}
    (run : Run Readers.step inTime (.start output) history s) : s.Inv output history := by
  apply run.invariant (Readers.Inv output)
  · exact ⟨fun stream => rfl, rfl, trivial⟩
  · intro history s label t out hs hlabel hstep
    exact hs.step hlabel hstep

theorem step_turn (s : Readers) (stream : Stream) :
    Readers.step s (.turn stream) = s.turn stream := by
  unfold Readers.step
  rfl

private theorem step_exit {s : Readers} (h : s.drain = .waiting) :
    Readers.step s .exit = some ({ s with drain := .joining [.stdout, .stderr] }, []) := by
  simp [Readers.step, h]

private theorem step_join {s : Readers} {stream : Stream} {left : List Stream}
    (h : s.drain = .joining (stream :: left)) (hended : s.reader stream = .ended) :
    Readers.step s .join = some ({ s with drain := .joining left }, []) := by
  simp [Readers.step, h, hended]

private theorem step_classify {s : Readers} (h : s.drain = .joining []) :
    Readers.step s .classify =
      some ({ s with drain := .classified s.scanner.certChange }, []) := by
  simp [Readers.step, h]

private theorem exists_ended {history : List Fed} {s : Readers} (stream : Stream)
    (run : Run Readers.step inTime (.start output) history s) :
    ∃ history' t, Run Readers.step inTime (.start output) history' t ∧ t.drain = s.drain ∧
      t.reader stream = .ended ∧ ∀ other, other ≠ stream → t.reader other = s.reader other := by
  cases hreader : s.reader stream with
  | ended => exact ⟨history, s, run, rfl, hreader, fun _ _ => rfl⟩
  | reading left =>
    -- every turn that does not end the reader takes a line off what is left
    induction hlength : left.length using Nat.strong_induction_on generalizing history s left with
    | _ n ih =>
      obtain ⟨⟨t, out⟩, hturn⟩ : ∃ next, s.turn stream = some next := by
        unfold Readers.turn
        cases hnext : nextLine left <;> simp [hreader, hnext]
      have hrun : Run Readers.step inTime (.start output) (history ++ out) t :=
        run.tail (by simp [inTime]) ((step_turn s stream).trans hturn)
      obtain ⟨left', hreader', ⟨_, _, rfl⟩ | ⟨text, rest, _, hless, _, rfl⟩⟩ := turn_cases hturn
      · exact ⟨_, _, hrun, rfl, by simp, fun other hne => by simp [Function.update_of_ne hne]⟩
      · obtain rfl : left = left' := Reader.reading.inj (hreader.symm.trans hreader')
        obtain ⟨history', u, hrun', hdrain, hended, hother⟩ :=
          ih rest.length (hlength ▸ hless) hrun rest (by simp) rfl
        refine ⟨history', u, hrun', hdrain, hended, fun other hne => ?_⟩
        rw [hother other hne]
        exact Function.update_of_ne hne _ _

theorem exists_classified (output : Stream → List UInt8) :
    ∃ history s verdict, Run Readers.step inTime (.start output) history s ∧
      s.drain = .classified verdict := by
  obtain ⟨history₁, s₁, run₁, hdrain₁, hstdout₁, _⟩ :=
    exists_ended .stdout (.refl : Run Readers.step inTime (.start output) [] _)
  obtain ⟨history₂, s₂, run₂, hdrain₂, hstderr₂, hother₂⟩ := exists_ended .stderr run₁
  have hstdout₂ : s₂.reader .stdout = .ended := (hother₂ .stdout (by decide)).trans hstdout₁
  have hexit := run₂.tail (by simp [inTime]) (step_exit (hdrain₂.trans hdrain₁))
  have hjoin₁ := hexit.tail (by simp [inTime]) (step_join rfl hstdout₂)
  have hjoin₂ := hjoin₁.tail (by simp [inTime]) (step_join rfl hstderr₂)
  have hclassify := hjoin₂.tail (by simp [inTime]) (step_classify rfl)
  exact ⟨_, _, _, hclassify, rfl⟩

private theorem fedBy_classified {history : List Fed} {s : Readers} {verdict : Option String}
    (run : Run Readers.step inTime (.start output) history s)
    (hverdict : s.drain = .classified verdict) (stream : Stream) :
    fedBy stream history = untilGap (streamLines (output stream)) := by
  have hs := Readers.inv run
  have hjoined := hs.joined
  simp only [Readers.Joined, hverdict] at hjoined
  have hfed := hs.fed stream
  rw [hjoined.1 stream] at hfed
  simpa using hfed

private theorem fedBy_subset {stream : Stream} {history : List Fed} {line : String}
    (h : line ∈ fedBy stream history) : line ∈ history.map Prod.snd := by
  obtain ⟨fed, hfed, rfl⟩ := List.mem_map.mp h
  exact List.mem_map.mpr ⟨fed, (List.mem_filter.mp hfed).1, rfl⟩

/-- Readers that came to their end in time have told the scanner of every rejection on streams
without garbled lines. -/
theorem classified_detects {history : List Fed} {s : Readers} {verdict : Option String}
    (run : Run Readers.step inTime (.start output) history s)
    (hverdict : s.drain = .classified verdict) (hlines : ∀ stream, ¬ LosesLines (output stream))
    (hrejects : ∃ stream, ∃ line ∈ validLines (output stream), Rejects line)
    (hshows : ∃ stream, ∃ line ∈ validLines (output stream), ShowsDigest line) :
    verdict ≠ none := by
  have hfed : ∀ stream line, line ∈ validLines (output stream) → line ∈ history.map Prod.snd := by
    intro stream line hline
    apply @fedBy_subset stream
    rw [fedBy_classified run hverdict, (untilGap_eq_iff _).mpr (hlines stream)]
    exact hline
  have hs := Readers.inv run
  have hjoined := hs.joined
  simp only [Readers.Joined, hverdict] at hjoined
  obtain ⟨stream, line, hline, hline'⟩ := hrejects
  obtain ⟨stream', shown, hshown, hshown'⟩ := hshows
  rw [hjoined.2, hs.scanned, certChange_isSome_iff]
  exact ⟨⟨line, hfed stream line hline, hline'⟩, shown, hfed stream' shown hshown, hshown'⟩

/-- Joined or given up on, readers feed the lines of their own streams, and a digest once read
stays the verdict. -/
structure Readers.Reads (output : Stream → List UInt8) (history : List Fed) (s : Readers) :
    Prop where
  left : ∀ stream left, s.reader stream = .reading left →
    ∀ line ∈ untilGap (streamLines left), line ∈ untilGap (streamLines (output stream))
  fed : ∀ line ∈ history, line.2 ∈ untilGap (streamLines (output line.1))
  scanned : s.scanner = scan (history.map Prod.snd)
  verdict : ∀ digest, s.drain = .classified (some digest) → s.scanner.certChange = some digest

private theorem Readers.Reads.turn {history : List Fed} {s t : Readers} {stream : Stream}
    {out : List Fed} (hs : s.Reads output history) (h : s.turn stream = some (t, out)) :
    t.Reads output (history ++ out) := by
  obtain ⟨left, hreader, ⟨_, rfl, rfl⟩ | ⟨text, rest, hcons, _, rfl, rfl⟩⟩ := turn_cases h
  · rw [List.append_nil]
    refine ⟨?_, hs.fed, hs.scanned, hs.verdict⟩
    intro stream' left' hreader'
    by_cases heq : stream' = stream
    · simp [heq] at hreader'
    · exact hs.left stream' left' (by simpa [Function.update_of_ne heq] using hreader')
  · have hleft := hs.left stream left hreader
    rw [hcons] at hleft
    have hscan : s.scanner.observe text = scan ((history ++ [(stream, text)]).map Prod.snd) := by
      rw [List.map_append, List.map_singleton, scan_snoc, hs.scanned]
    refine ⟨?_, ?_, hscan, ?_⟩
    · intro stream' left' hreader'
      by_cases heq : stream' = stream
      · subst heq
        obtain rfl : rest = left' := by simpa using hreader'
        exact fun line hline => hleft line (List.mem_cons_of_mem _ hline)
      · exact hs.left stream' left' (by simpa [Function.update_of_ne heq] using hreader')
    · intro line hline
      rcases List.mem_append.mp hline with hbefore | hnow
      · exact hs.fed line hbefore
      · rw [List.mem_singleton.mp hnow]
        exact hleft text List.mem_cons_self
    · intro digest hdrain
      have hverdict := hs.verdict digest hdrain
      rw [hs.scanned] at hverdict
      rw [hscan, List.map_append]
      exact certChange_append hverdict _

theorem Readers.reads {history : List Fed} {s : Readers}
    (run : Run Readers.step anyLabel (.start output) history s) : s.Reads output history := by
  apply run.invariant (Readers.Reads output)
  · refine ⟨?_, by simp, rfl, by simp [Readers.start]⟩
    intro stream left hreader
    obtain rfl := Reader.reading.inj hreader
    exact fun line hline => hline
  · intro history s label t out hs _ hstep
    have hdrain : ∀ drain, (∀ digest, drain = .classified (some digest) →
        s.scanner.certChange = some digest) →
        Readers.Reads output (history ++ []) { s with drain := drain } := by
      intro drain hverdict
      rw [List.append_nil]
      exact ⟨hs.left, hs.fed, hs.scanned, hverdict⟩
    unfold Readers.step at hstep
    split at hstep
    · exact hs.turn hstep
    · cases hstep
      exact hdrain _ (by simp)
    · split at hstep <;> cases hstep
      exact hdrain _ (by simp)
    · cases hstep
      exact hdrain _ (by simp)
    · cases hstep
      exact hdrain _ (by simp)
    · cases hstep

/-- A verdict is about lines the readers found on their own streams. -/
theorem classified_printed {history : List Fed} {s : Readers} {digest : String}
    (run : Run Readers.step anyLabel (.start output) history s)
    (hverdict : s.drain = .classified (some digest)) :
    (∃ stream, ∃ line ∈ validLines (output stream), Rejects line) ∧
      ∃ stream, ∃ line ∈ validLines (output stream), Presents line digest := by
  have hs := Readers.reads run
  have hprinted : ∀ line ∈ history.map Prod.snd, ∃ stream, line ∈ validLines (output stream) := by
    intro line hline
    obtain ⟨fed, hfed, rfl⟩ := List.mem_map.mp hline
    exact ⟨fed.1, mem_of_untilGap (hs.fed fed hfed)⟩
  have hscan := hs.verdict digest hverdict
  rw [hs.scanned, certChange_iff] at hscan
  obtain ⟨⟨line, hline, hrejects⟩, before, shown, after, hlines, hpresents, _⟩ := hscan
  obtain ⟨stream, hstream⟩ := hprinted line hline
  obtain ⟨stream', hstream'⟩ := hprinted shown (by simp [hlines])
  exact ⟨⟨stream, line, hstream, hrejects⟩, stream', shown, hstream', hpresents⟩

end Runs

/-- Every rejection is detected exactly when no line that is not valid UTF-8 stands before a
valid one of its stream. -/
theorem detects_iff (output : Stream → List UInt8) :
    Detects output ↔ ∀ stream, ¬ LosesLines (output stream) := by
  constructor
  · intro hdetects stream
    obtain ⟨history, s, verdict, run, hverdict⟩ := exists_classified output
    have hall := (hdetects history s verdict run hverdict).1 stream
    rw [fedBy_classified run hverdict] at hall
    exact (untilGap_eq_iff _).mp hall
  · intro hlines history s verdict run hverdict
    have hall : ∀ stream, fedBy stream history = validLines (output stream) := by
      intro stream
      rw [fedBy_classified run hverdict]
      exact (untilGap_eq_iff _).mpr (hlines stream)
    refine ⟨hall, ?_⟩
    rintro ⟨stream, line, hline, hrejects⟩ ⟨stream', line', hline', hshows⟩
    have hs := Readers.inv run
    have hjoined := hs.joined
    simp only [Readers.Joined, hverdict] at hjoined
    rw [hjoined.2, hs.scanned, certChange_isSome_iff]
    rw [← hall] at hline hline'
    exact ⟨⟨line, fedBy_subset hline, hrejects⟩, line', fedBy_subset hline', hshows⟩

def garbledOutput : Stream → List UInt8
  | .stdout => 0xff :: lineFeed ::
    "sha256 digest: e34e0d64da8ad0f6cb47a66e6bc9100a2d6ac3636455e12e89dd8663e0f5cf96\n".toUTF8.toList
  | .stderr => "Error: gateway certificate not trusted\n".toUTF8.toList

/-- The digest is never read. -/
theorem detects_garbled : ¬ Detects garbledOutput := by
  intro hdetects
  obtain ⟨history, s, verdict, run, hverdict⟩ := exists_classified garbledOutput
  have hall := (hdetects history s verdict run hverdict).1 .stdout
  rw [fedBy_classified run hverdict] at hall
  exact absurd hall (by decide +kernel)

end CrosswireNm.Service
