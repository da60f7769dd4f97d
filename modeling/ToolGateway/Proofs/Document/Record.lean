import ToolGateway.Document.Record
import ToolGateway.Proofs.Table

/-!
Records from the members of an object.

`Fields.TakenFrom` says field by field what is read: a field whose member is found has what the member is read as, and
one whose member is not found falls back. In whatever order the members stand, and whatever else is among them, the
record is built from just that (`Codec.record_fromJson`). On the way the draft is known from the names that have been
seen (`Fields.fill`).
-/

namespace ToolGateway

namespace Fields

variable {τ δ : Type} {fields : Fields τ δ} {found : String → Option Json} {values : τ}

/-- the names of the fields -/
def names {τ δ : Type} : Fields τ δ → List String
  | done => []
  | field name _ _ _ rest => name :: rest.names

/-- the draft that has the fields of these names filled, each with what it is read as -/
def fill {τ δ : Type} : Fields τ δ → τ → List String → δ
  | done, _, _ => ()
  | field name _ _ _ rest, (b, bs), seen => (if name ∈ seen then some b else none, rest.fill bs seen)

theorem fill_nil (fields : Fields τ δ) (b : τ) : fields.fill b [] = fields.blank := by
  induction fields with
  | done => rfl
  | field name codec fallback isOmitted rest ih =>
    obtain ⟨b, bs⟩ := b
    simp [fill, blank, ih]

theorem fill_cons_of_not_mem {fields : Fields τ δ} {name : String} (h : name ∉ fields.names) (b : τ)
    (seen : List String) : fields.fill b (name :: seen) = fields.fill b seen := by
  induction fields with
  | done => rfl
  | field other codec fallback isOmitted rest ih =>
    obtain ⟨b, bs⟩ := b
    simp only [names, List.mem_cons, not_or] at h
    simp [fill, ih h.2, List.mem_cons, Ne.symm h.1]

/-- members of distinct names that are new are new one after another -/
theorem new_cons {m : String × Json} {ms : List (String × Json)} {seen : List String}
    (h : ((m :: ms).map (·.1)).Nodup ∧ ∀ n ∈ m :: ms, n.1 ∉ seen) :
    (ms.map (·.1)).Nodup ∧ ∀ n ∈ ms, n.1 ∉ m.1 :: seen := by
  obtain ⟨hdistinct, hfresh⟩ := h
  rw [List.map_cons, List.nodup_cons] at hdistinct
  refine ⟨hdistinct.2, fun n hn hmem => ?_⟩
  rcases List.mem_cons.1 hmem with heq | hmem
  · exact hdistinct.1 (heq ▸ List.mem_map_of_mem hn)
  · exact hfresh n (List.mem_cons_of_mem _ hn) hmem

/-- the values of fields, by what is found under their names -/
def TakenFrom (found : String → Option Json) {τ δ : Type} : Fields τ δ → τ → Prop
  | done, _ => True
  | field name codec fallback _ rest, (a, as) =>
    (∀ j, found name = some j → codec.fromJson j = .ok a) ∧
      (found name = none → (fallback <|> codec.ifMissing) = some a) ∧ rest.TakenFrom found as

/-- a member fills its own field; one that no field asks for fills none -/
theorem takeMember_taken (hnames : fields.names.Nodup) (htaken : fields.TakenFrom found values) {key : String}
    {j : Json} (hfound : found key = some j) {seen : List String} (hnew : key ∉ seen) :
    takeMember key j fields (fields.fill values seen) = .ok (fields.fill values (key :: seen)) := by
  induction fields with
  | done => rfl
  | field name codec fallback isOmitted rest ih =>
    obtain ⟨a, as⟩ := values
    obtain ⟨hread, -, hrest⟩ := htaken
    obtain ⟨hfresh, hnames⟩ := List.nodup_cons.1 hnames
    by_cases hkey : key = name
    · subst hkey
      simp only [fill, takeMember, if_true, if_neg hnew, Option.isSome_none, Bool.false_eq_true, if_false,
        hread j hfound, Except.mapError, bind, Except.bind, List.mem_cons_self, fill_cons_of_not_mem hfresh]
      rfl
    · simp only [fill, takeMember, if_neg hkey, ih hnames hrest, bind, Except.bind, List.mem_cons, Ne.symm hkey,
        false_or]
      rfl

theorem takeMembers_taken (hnames : fields.names.Nodup) (htaken : fields.TakenFrom found values)
    {ms : List (String × Json)} (hms : ∀ m ∈ ms, found m.1 = some m.2) (seen : List String)
    (hnew : (ms.map (·.1)).Nodup ∧ ∀ m ∈ ms, m.1 ∉ seen) :
    takeMembers fields ms (fields.fill values seen) = .ok (fields.fill values ((ms.map (·.1)).reverse ++ seen)) := by
  induction ms generalizing seen with
  | nil => rfl
  | cons m ms ih =>
    have hmember := takeMember_taken hnames htaken (hms m List.mem_cons_self) (hnew.2 m List.mem_cons_self)
    have hrest := ih (fun n hn => hms n (List.mem_cons_of_mem _ hn)) (m.1 :: seen) (new_cons hnew)
    rw [takeMembers]
    simp only [hmember, bind, Except.bind, hrest]
    simp

/-- once all members that are found have been taken, the values are complete -/
theorem finish_taken (htaken : fields.TakenFrom found values) (seen : List String)
    (hall : ∀ name ∈ fields.names, name ∉ seen → found name = none) :
    fields.finish (fields.fill values seen) = .ok values := by
  induction fields with
  | done => rfl
  | field name codec fallback isOmitted rest ih =>
    obtain ⟨a, as⟩ := values
    obtain ⟨-, hmissing, hrest⟩ := htaken
    have hvalues := ih hrest fun other hother => hall other (List.mem_cons_of_mem _ hother)
    have hvalue : ((if name ∈ seen then some a else none) <|> fallback <|> codec.ifMissing) = some a := by
      by_cases hname : name ∈ seen
      · rw [if_pos hname]
        rfl
      · rw [if_neg hname]
        exact hmissing (hall name List.mem_cons_self hname)
    simp only [fill, finish, hvalue, hvalues, bind, Except.bind]
    rfl

end Fields

namespace Codec

variable {σ τ δ : Type}

/-- **A record is read from the members of an object field by field.** -/
theorem record_fromJson {name : String} {fields : Fields τ δ} {build : τ → σ} {parts : σ → τ}
    (hnames : fields.names.Nodup) {members : List (String × Json)} (hdistinct : (members.map (·.1)).Nodup) (values : τ)
    (htaken : fields.TakenFrom (fun key => Table.find? key members) values) :
    (record name fields build parts).fromJson (.object members) = .ok (build values) := by
  have hfound : ∀ m ∈ members, Table.find? m.1 members = some m.2 := fun m hm => Table.find?_of_mem hdistinct hm
  have htake := Fields.takeMembers_taken hnames htaken hfound [] ⟨hdistinct, by simp⟩
  rw [Fields.fill_nil] at htake
  have hfinish := Fields.finish_taken htaken ((members.map (·.1)).reverse ++ []) fun key _ hkey => by
    refine Table.find?_eq_none fun m hm heq => hkey ?_
    rw [List.append_nil, List.mem_reverse, ← heq]
    exact List.mem_map_of_mem hm
  simp only [record, htake, hfinish, bind, Except.bind, Except.mapError]
  rfl

end Codec

end ToolGateway
