import CrosswireNm.Library.Text

/-!
# Command lines of options

An option stands alone or takes the token behind it as its value, and a separator ends the
options. A reader that knows which flags take a value reads back what was rendered, whatever the
values are.
-/

namespace CrosswireNm.Library

variable {α : Type*}

inductive Opt (α : Type*)
  | switch (flag : α)
  | valued (flag value : α)
  deriving DecidableEq, Repr

namespace Opt

def tokens : Opt α → List α
  | switch flag => [flag]
  | valued flag value => [flag, value]

def Fits (takesValue : α → Bool) (stop : α) : Opt α → Prop
  | switch flag => flag ≠ stop ∧ takesValue flag = false
  | valued flag _ => flag ≠ stop ∧ takesValue flag = true

def render (opts : List (Opt α)) : List α := opts.flatMap tokens

@[simp] theorem render_nil : render ([] : List (Opt α)) = [] := rfl

@[simp] theorem render_cons (opt : Opt α) (opts : List (Opt α)) :
    render (opt :: opts) = opt.tokens ++ render opts := by
  simp [render]

@[simp] theorem render_append (opts opts' : List (Opt α)) :
    render (opts ++ opts') = render opts ++ render opts' := by
  simp [render]

section Read

variable [DecidableEq α] {takesValue : α → Bool} {stop : α}

def read (takesValue : α → Bool) (stop : α) : List α → Option (List (Opt α) × List α)
  | [] => none
  | flag :: rest =>
    if flag = stop then some ([], rest)
    else if takesValue flag then
      match rest with
      | [] => none
      | value :: rest =>
        (read takesValue stop rest).map (fun found => (valued flag value :: found.1, found.2))
    else (read takesValue stop rest).map (fun found => (switch flag :: found.1, found.2))

theorem read_stop (rest : List α) : read takesValue stop (stop :: rest) = some ([], rest) := by
  rw [read.eq_def]
  simp

theorem read_switch {flag : α} (hflag : (switch flag).Fits takesValue stop) (rest : List α) :
    read takesValue stop (flag :: rest) =
      (read takesValue stop rest).map (fun found => (switch flag :: found.1, found.2)) := by
  rw [read.eq_def]
  simp [hflag.1, hflag.2]

theorem read_valued {flag value : α} (hflag : (valued flag value).Fits takesValue stop)
    (rest : List α) :
    read takesValue stop (flag :: value :: rest) =
      (read takesValue stop rest).map (fun found => (valued flag value :: found.1, found.2)) := by
  rw [read.eq_def]
  simp [hflag.1, hflag.2]

/-- Read left to right, a value is never where a flag is looked for. -/
theorem read_render {opts : List (Opt α)} (hfits : ∀ opt ∈ opts, opt.Fits takesValue stop)
    (rest : List α) :
    read takesValue stop (render opts ++ stop :: rest) = some (opts, rest) := by
  induction opts with
  | nil => exact read_stop rest
  | cons opt opts ih =>
    have hopt : opt.Fits takesValue stop := hfits opt List.mem_cons_self
    have htail := ih (fun opt hmem => hfits opt (List.mem_cons_of_mem _ hmem))
    rw [render_cons, List.append_assoc]
    cases opt with
    | switch flag =>
      show read takesValue stop (flag :: (render opts ++ stop :: rest)) = _
      rw [read_switch hopt, htail]
      rfl
    | valued flag value =>
      show read takesValue stop (flag :: value :: (render opts ++ stop :: rest)) = _
      rw [read_valued hopt, htail]
      rfl

end Read

section Values

variable [DecidableEq α]

def values (flag : α) (opts : List (Opt α)) : List α :=
  opts.filterMap fun opt =>
    match opt with
    | switch _ => none
    | valued flag' value => if flag' = flag then some value else none

@[simp] theorem values_append (flag : α) (opts opts' : List (Opt α)) :
    values flag (opts ++ opts') = values flag opts ++ values flag opts' := by
  simp [values]

@[simp] theorem values_nil (flag : α) : values flag ([] : List (Opt α)) = [] := rfl

@[simp] theorem values_switch (flag flag' : α) (opts : List (Opt α)) :
    values flag (switch flag' :: opts) = values flag opts := rfl

@[simp] theorem values_valued (flag flag' value : α) (opts : List (Opt α)) :
    values flag (valued flag' value :: opts) =
      if flag' = flag then value :: values flag opts else values flag opts := by
  by_cases h : flag' = flag <;> simp [values, h]

@[simp] theorem values_map_valued (flag flag' : α) (vals : List α) :
    values flag (vals.map (valued flag')) = if flag' = flag then vals else [] := by
  induction vals with
  | nil => simp
  | cons value vals ih =>
    rw [List.map_cons, values_valued, ih]
    split <;> rfl

end Values

end Opt

section Named

/-- GOption's long options, each of which takes a value: the next argument, whatever it looks
like, or what stands behind an equals sign. `--` ends the options; other arguments are left
alone, and an option with another name is an error. -/
def readNamed (names : List (List Char)) :
    List (List Char) → Option (List (List Char × List Char))
  | [] => some []
  | ['-', '-'] :: _ => some []
  | ('-' :: '-' :: option) :: rest =>
    match splitOnce '=' option with
    | some (name, value) =>
      if names.contains name then (readNamed names rest).map ((name, value) :: ·) else none
    | none =>
      match rest with
      | [] => none
      | value :: rest =>
        if names.contains option then (readNamed names rest).map ((option, value) :: ·) else none
  | ('-' :: _ :: _) :: _ => none
  | _ :: rest => readNamed names rest

def namedTokens (pair : List Char × List Char) : List (List Char) :=
  ['-' :: '-' :: pair.1, pair.2]

private theorem splitOnce_clean {name : List Char} (hname : '=' ∉ name) :
    splitOnce '=' name = none := by
  have hdrop : name.dropWhile (· != '=') = [] := by
    rw [List.dropWhile_eq_nil_iff]
    intro c hc
    exact bne_iff_ne.mpr (fun heq => hname (heq ▸ hc))
  unfold splitOnce
  rw [hdrop]

theorem readNamed_cons {names : List (List Char)} {name value : List Char}
    (hmem : name ∈ names) (hne : name ≠ []) (hclean : '=' ∉ name) (rest : List (List Char)) :
    readNamed names (('-' :: '-' :: name) :: value :: rest) =
      (readNamed names rest).map ((name, value) :: ·) := by
  cases name with
  | nil => exact absurd rfl hne
  | cons c cs =>
    rw [readNamed, splitOnce_clean hclean]
    · simp only [if_pos (List.contains_iff_mem.mpr hmem)]
    · simp

theorem readNamed_tokens {names : List (List Char)}
    (hnames : ∀ name ∈ names, name ≠ [] ∧ '=' ∉ name) {pairs : List (List Char × List Char)}
    (hpairs : ∀ pair ∈ pairs, pair.1 ∈ names) :
    readNamed names (pairs.flatMap namedTokens) = some pairs := by
  induction pairs with
  | nil => rfl
  | cons pair pairs ih =>
    have hmem := hpairs pair List.mem_cons_self
    have htail := ih (fun pair hpair => hpairs pair (List.mem_cons_of_mem _ hpair))
    obtain ⟨hne, hclean⟩ := hnames _ hmem
    show readNamed names (('-' :: '-' :: pair.1) :: pair.2 :: pairs.flatMap namedTokens) = _
    rw [readNamed_cons hmem hne hclean, htail]
    rfl

end Named

end CrosswireNm.Library
