import Mathlib.Tactic
import ToolGateway.Call.Contract

/-!
The place of a field in the line that reports a violation.

A pointer is a list of reference tokens, each behind a slash, and a line is to show the tokens with points between them.
What it shows is made from the pointer by dropping every slash in front, so tokens in front that are empty go with their
slashes. A member without a name has such a token.

- `fieldPath_pointerOf`: the path that is shown has the tokens from the first one on that is not empty.
- `length_dotted`: each empty token in front would have had a point of its own.
- `fieldPath_dotted_iff`: so a path, and a line, names its field exactly if the first token is not empty.
-/

namespace ToolGateway.Violation

/-- reference tokens as a pointer, each behind a slash -/
def pointerOf (tokens : List String) : String :=
  String.join (tokens.map ("/" ++ ·))

/-- reference tokens with points between them; if there are none, it is the whole document -/
def dotted (tokens : List String) : String :=
  if tokens = [] then "(root)" else ".".intercalate tokens

/-- no slash stands in a token -/
def Slashless (tokens : List String) : Prop :=
  ∀ t ∈ tokens, '/' ∉ t.toList

/-- the tokens of the path to a violation, one for each step -/
def steps (v : Violation) : List String :=
  v.path.map fun name => String.ofList (token name)

variable {t : String} {tokens rest : List String}

/-! ## Tokens of names -/

theorem token_ne_nil {name : String} (h : name ≠ "") : token name ≠ [] := by
  have hne : name.toList ≠ [] := by simpa using h
  obtain ⟨c, cs, hname⟩ := List.exists_cons_of_ne_nil hne
  rw [token, hname, List.flatMap_cons]
  split_ifs <;> simp

theorem slash_notMem_token (name : String) : '/' ∉ token name := by
  intro hmem
  obtain ⟨c, -, hc⟩ := List.mem_flatMap.1 hmem
  split_ifs at hc with htilde hslash
  · exact absurd hc (by decide)
  · exact absurd hc (by decide)
  · exact hslash (List.mem_singleton.1 hc).symm

theorem slashless_steps (v : Violation) : Slashless v.steps := by
  intro t ht
  obtain ⟨name, -, rfl⟩ := List.mem_map.1 ht
  rw [String.toList_ofList]
  exact slash_notMem_token name

theorem head?_steps (v : Violation) : v.steps.head? = some "" ↔ v.path.head? = some "" := by
  rw [steps, List.head?_map]
  cases v.path.head? with
  | none => simp
  | some name =>
    simp only [Option.map_some, Option.some.injEq]
    constructor
    · intro h
      by_contra hne
      exact token_ne_nil hne (by simpa using congrArg String.toList h)
    · rintro rfl
      rfl

theorem toList_pointerOf (tokens : List String) :
    (pointerOf tokens).toList = tokens.flatMap fun t => '/' :: t.toList := by
  simp [pointerOf, List.flatMap_map]

theorem pointer_path (v : Violation) : pointer v.path = pointerOf v.steps := by
  rw [← String.toList_inj, toList_pointerOf, steps, pointer, String.toList_ofList, List.flatMap_map]
  simp

/-! ## The path that is shown -/

theorem fieldPath_cons_empty (rest : List String) : fieldPath (pointerOf ("" :: rest)) = fieldPath (pointerOf rest) := by
  rw [fieldPath, fieldPath, toList_pointerOf, toList_pointerOf]
  simp

theorem toList_intercalate_cons (t : String) (rest : List String) :
    (".".intercalate (t :: rest)).toList = t.toList ++ rest.flatMap fun u => '.' :: u.toList := by
  induction rest generalizing t with
  | nil => simp
  | cons u rest ih => rw [String.intercalate_cons_cons, String.toList_append, ih]; simp

/-- turning slashes into points leaves a token as it is -/
theorem map_slashless {cs : List Char} (h : '/' ∉ cs) : cs.map (fun c => if c = '/' then '.' else c) = cs := by
  have hsame : ∀ c ∈ cs, (if c = '/' then '.' else c) = c := by
    intro c hc
    rw [if_neg]
    rintro rfl
    exact h hc
  rw [List.map_congr_left hsame, List.map_id']

theorem fieldPath_cons (ht : t ≠ "") (h : Slashless (t :: rest)) :
    fieldPath (pointerOf (t :: rest)) = ".".intercalate (t :: rest) := by
  have hslash : '/' ∉ t.toList := h t List.mem_cons_self
  have hne : t.toList ≠ [] := by simpa using ht
  obtain ⟨c, cs, hcs⟩ := List.exists_cons_of_ne_nil hne
  have hc : c ≠ '/' := by
    rintro rfl
    exact hslash (hcs ▸ List.mem_cons_self)
  have hdrop : (pointerOf (t :: rest)).toList.dropWhile (· == '/') =
      t.toList ++ rest.flatMap fun u => '/' :: u.toList := by
    rw [toList_pointerOf, List.flatMap_cons, hcs]
    simp [hc]
  have hpoints : (rest.flatMap fun u => '/' :: u.toList).map (fun c => if c = '/' then '.' else c) =
      rest.flatMap fun u => '.' :: u.toList := by
    rw [List.map_flatMap]
    refine List.flatMap_congr fun u hu => ?_
    rw [List.map_cons, map_slashless (h u (List.mem_cons_of_mem _ hu)), if_pos rfl]
  rw [← String.toList_inj, toList_intercalate_cons, fieldPath, hdrop]
  split
  next hnil => simp [hcs] at hnil
  next => rw [String.toList_ofList, List.map_append, map_slashless hslash, hpoints]

/-- **What is shown are the tokens from the first one on that is not empty.** -/
theorem fieldPath_pointerOf (h : Slashless tokens) :
    fieldPath (pointerOf tokens) = dotted (tokens.dropWhile (· == "")) := by
  induction tokens with
  | nil => rfl
  | cons t rest ih =>
    by_cases ht : t = ""
    · subst ht
      rw [fieldPath_cons_empty, ih fun u hu => h u (List.mem_cons_of_mem _ hu)]
      rfl
    · rw [fieldPath_cons ht h, List.dropWhile_cons_of_neg (by simpa using ht), dotted, if_neg (List.cons_ne_nil _ _)]

/-! ## What is lost -/

theorem dropWhile_of_head (h : tokens.head? ≠ some "") : tokens.dropWhile (· == "") = tokens := by
  cases tokens with
  | nil => rfl
  | cons t rest => rw [List.dropWhile_cons_of_neg (by simpa using h)]

/-- an empty token in front has a point of its own -/
theorem dotted_cons_empty (h : rest ≠ []) : dotted ("" :: rest) = "." ++ dotted rest := by
  obtain ⟨u, more, rfl⟩ := List.exists_cons_of_ne_nil h
  rw [dotted, dotted, if_neg (List.cons_ne_nil _ _), if_neg (List.cons_ne_nil _ _), String.intercalate_cons_cons,
    String.empty_append]

/-- tokens in front that are empty make the path longer by a point each -/
theorem length_dotted (h : tokens.dropWhile (· == "") ≠ []) :
    (dotted tokens).length =
      (tokens.takeWhile (· == "")).length + (dotted (tokens.dropWhile (· == ""))).length := by
  induction tokens with
  | nil => exact absurd rfl h
  | cons t rest ih =>
    by_cases ht : t = ""
    · subst ht
      have hkept : rest.dropWhile (· == "") ≠ [] := h
      have hne : rest ≠ [] := by
        rintro rfl
        exact hkept rfl
      have hpoint : ".".length = 1 := rfl
      rw [dotted_cons_empty hne, String.length_append, ih hkept, hpoint, List.takeWhile_cons_of_pos rfl,
        List.dropWhile_cons_of_pos rfl, List.length_cons]
      omega
    · rw [List.takeWhile_cons_of_neg (by simpa using ht), List.dropWhile_cons_of_neg (by simpa using ht)]
      simp

/-- the path of a nameless member of the document is not that of the document -/
theorem dotted_cons_empty_ne_root (rest : List String) : dotted ("" :: rest) ≠ "(root)" := by
  intro h
  cases rest with
  | nil => exact absurd h (by decide)
  | cons u more =>
    rw [dotted_cons_empty (List.cons_ne_nil u more)] at h
    have hchars : '.' :: (dotted (u :: more)).toList = "(root)".toList := by simpa using congrArg String.toList h
    cases hchars

/-- **The path that is shown has a step for each token exactly if the first token is not empty.** -/
theorem dotted_dropWhile_iff : dotted (tokens.dropWhile (· == "")) = dotted tokens ↔ tokens.head? ≠ some "" := by
  refine ⟨fun h hhead => ?_, fun h => by rw [dropWhile_of_head h]⟩
  -- with an empty token in front the two differ: in their text if no other token is left, in their length otherwise
  obtain ⟨rest, rfl⟩ : ∃ rest, tokens = "" :: rest := by
    cases tokens with
    | nil => cases hhead
    | cons t rest => exact ⟨rest, by rw [Option.some.inj hhead]⟩
  by_cases hkept : ("" :: rest).dropWhile (· == "") = []
  · rw [hkept] at h
    exact dotted_cons_empty_ne_root rest h.symm
  · have hlength := length_dotted hkept
    rw [h, List.takeWhile_cons_of_pos rfl, List.length_cons] at hlength
    omega

/-! ## Main result -/

/-- the line of a violation whose field is shown as `path` -/
def lineWith (path message : String) : String :=
  "- " ++ path ++ ": " ++ message

theorem lineWith_inj {p q message : String} : lineWith p message = lineWith q message ↔ p = q := by
  simp [lineWith]

/-- **A field is named by the tokens from the first one on that is not empty**, so it is named rightly exactly if the
first token is not empty. For all reference tokens, empty ones in any place, this holds

- of the path that is shown for their pointer;
- of the line of every violation whose steps they are: then its path does not start at a member without a name. -/
theorem fieldPath_dotted_iff (h : Slashless tokens) :
    fieldPath (pointerOf tokens) = dotted (tokens.dropWhile (· == "")) ∧
      (fieldPath (pointerOf tokens) = dotted tokens ↔ tokens.head? ≠ some "") ∧
      ∀ v : Violation, v.steps = tokens →
        v.line = lineWith (dotted (tokens.dropWhile (· == ""))) v.message ∧
          (v.line = lineWith (dotted tokens) v.message ↔ v.path.head? ≠ some "") := by
  have hpath := fieldPath_pointerOf h
  refine ⟨hpath, by rw [hpath, dotted_dropWhile_iff], ?_⟩
  rintro v rfl
  have hline : v.line = lineWith (dotted (v.steps.dropWhile (· == ""))) v.message := by
    rw [← hpath, ← pointer_path]
    rfl
  refine ⟨hline, ?_⟩
  rw [hline, lineWith_inj, dotted_dropWhile_iff, Ne, head?_steps]

/-- An empty name behind another one keeps its place, and a slash in a name is no step. -/
theorem fieldPath_dotted_inner :
    let v : Violation := ⟨["a", "", "b/c"], "null is not of type \"string\""⟩
    Slashless v.steps ∧ v.steps = ["a", "", "b~1c"] ∧ fieldPath (pointerOf v.steps) = "a..b~1c" ∧
      v.line = "- a..b~1c: null is not of type \"string\"" := by
  intro v
  have hsteps : v.steps = ["a", "", "b~1c"] := by decide
  have hdotted : dotted v.steps = "a..b~1c" := by rw [hsteps]; decide
  obtain ⟨-, hpath, hline⟩ := fieldPath_dotted_iff v.slashless_steps
  refine ⟨v.slashless_steps, hsteps, (hpath.2 (by rw [hsteps]; decide)).trans hdotted, ?_⟩
  rw [(hline v rfl).2.2 (by decide), hdotted]
  decide

/-- A member of a nameless member is taken for one of the document, though the document has that member and it is good,
and a nameless member is taken for the document. -/
theorem fieldPath_dotted_nameless :
    let text : Schema := .rules [.kinds ["string"] true]
    let validator : Validator := ⟨.rules [.members [("", .rules [.members [("a", text)]]), ("a", text)]], [], 4⟩
    let document : Json := .object [("", .object [("a", .number (.int 1))]), ("a", .string "x")]
    Slashless ["", "a"] ∧ fieldPath (pointerOf ["", "a"]) ≠ ".".intercalate ["", "a"] ∧
      fieldPath (pointerOf ["", "a"]) = fieldPath (pointerOf ["a"]) ∧
      validator.violations document = [⟨["", "a"], "1 is not of type \"string\""⟩] ∧
      (validator.violations document).map line = ["- a: 1 is not of type \"string\""] ∧
      Slashless [""] ∧ fieldPath (pointerOf [""]) = "(root)" ∧ ".".intercalate [""] = "" := by
  unfold Slashless
  decide +kernel

end ToolGateway.Violation
