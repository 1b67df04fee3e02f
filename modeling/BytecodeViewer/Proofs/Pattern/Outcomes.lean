import BytecodeViewer.Proofs.Pattern.Bounds

/-!
# Outcomes of a pattern

A part of a pattern hands the rest one place after another.  These places, with what the groups
captured on the way, form a list in order of preference that does not depend on the rest: the
rest takes the first one that it can go on from.  So what a pattern matches is a question about
lists, and backtracking is a search in them.
-/

namespace BytecodeViewer.Pattern

variable {α : Type} {text : Array Char}

/-- Where a part of a pattern can end, with the groups captured up to there. -/
abbrev Outcome := Nat × Captures

/-- The outcomes from a position, the preferred one first. -/
abbrev Branch := Nat → Captures → List Outcome

namespace Branch

def stay : Branch := fun i caps => [(i, caps)]

def andThen (first : Branch) (second : Nat → Branch) : Branch := fun i caps =>
  (first i caps).flatMap fun o => second o.1 o.1 o.2

def orElse (first second : Branch) : Branch := fun i caps =>
  first i caps ++ second i caps

def times (body : Branch) : Nat → Branch
  | 0 => stay
  | n + 1 => body.andThen fun _ => body.times n

def round (body next : Branch) : Branch := fun i caps =>
  (body i caps).flatMap fun o => if o.1 = i then [o] else next o.1 o.2

def greedy (body : Branch) : Nat → Option Nat → Branch
  | 0, _ => stay
  | _, some 0 => stay
  | fuel + 1, limit => (body.round (body.greedy fuel (fewer limit))).orElse stay

def lazy (body : Branch) : Nat → Option Nat → Branch
  | 0, _ => stay
  | _, some 0 => stay
  | fuel + 1, limit => stay.orElse (body.round (body.lazy fuel (fewer limit)))

def first (body : Branch) : Branch := fun i caps => (body i caps).take 1

def possessive (body : Branch) (least fuel : Nat) (limit : Option Nat) : Branch :=
  first ((body.first.times least).andThen fun _ => body.first.greedy fuel limit)

end Branch

def Node.outcomes (text : Array Char) : Node → Branch
  | .empty => .stay
  | .char test => fun i caps =>
    match text[i]? with
    | some c => if test.holds c then [(i + 1, caps)] else []
    | none => []
  | .seq first second => (first.outcomes text).andThen fun _ => second.outcomes text
  | .alt first second => (first.outcomes text).orElse (second.outcomes text)
  | .group index body => fun i caps =>
    (body.outcomes text i caps).map fun o => (o.1, (index, i, o.1) :: o.2)
  | .atomic body => (body.outcomes text).first
  | .repetition body least most greed =>
    let limit := most.map (· - least)
    match greed with
    | .greedy => ((body.outcomes text).times least).andThen fun j =>
        (body.outcomes text).greedy (text.size + 1 - j) limit
    | .lazy => ((body.outcomes text).times least).andThen fun j =>
        (body.outcomes text).lazy (text.size + 1 - j) limit
    | .possessive => fun i => (body.outcomes text).possessive least (text.size + 1 - i) limit i
  | .look side negated body => fun i caps =>
    let found :=
      match side with
      | .ahead => body.outcomes text i caps
      | .behind width => if width ≤ i then body.outcomes text (i - width) caps else []
    match found, negated with
    | o :: _, false => [(i, o.2)]
    | [], true => [(i, caps)]
    | _, _ => []
  | .anchor a => fun i caps => if a.holds text i then [(i, caps)] else []
  | .backreference index rule => fun i caps =>
    match caps.range? index with
    | some (start, stop) =>
      match copyEnd? text rule start stop i with
      | some j => [(j, caps)]
      | none => []
    | none => []
  | .ifGroup index yes no => fun i caps =>
    match caps.range? index with
    | some _ => yes.outcomes text i caps
    | none => no.outcomes text i caps

/-! ## Outcomes node by node -/

namespace Node

variable (text : Array Char) (i : Nat) (caps : Captures)

theorem outcomes_char (test : CharTest) :
    (char test).outcomes text i caps =
      match text[i]? with
      | some c => if test.holds c then [(i + 1, caps)] else []
      | none => [] := rfl

theorem outcomes_group (index : Nat) (n : Node) :
    (group index n).outcomes text i caps =
      (n.outcomes text i caps).map fun o => (o.1, (index, i, o.1) :: o.2) := rfl

theorem outcomes_greedy (n : Node) (least : Nat) (most : Option Nat) :
    (repetition n least most .greedy).outcomes text i caps =
      ((n.outcomes text).times least).andThen
        (fun j => (n.outcomes text).greedy (text.size + 1 - j) (most.map (· - least))) i caps := rfl

theorem outcomes_lazy (n : Node) (least : Nat) (most : Option Nat) :
    (repetition n least most .lazy).outcomes text i caps =
      ((n.outcomes text).times least).andThen
        (fun j => (n.outcomes text).lazy (text.size + 1 - j) (most.map (· - least))) i caps := rfl

theorem outcomes_look (side : Side) (negated : Bool) (n : Node) :
    (look side negated n).outcomes text i caps =
      match (match side with
        | .ahead => n.outcomes text i caps
        | .behind width => if width ≤ i then n.outcomes text (i - width) caps else []), negated with
      | o :: _, false => [(i, o.2)]
      | [], true => [(i, caps)]
      | _, _ => [] := rfl

theorem outcomes_anchor (a : Anchor) :
    (anchor a).outcomes text i caps = if a.holds text i then [(i, caps)] else [] := rfl

theorem outcomes_backreference (index : Nat) (rule : CaseRule) :
    (backreference index rule).outcomes text i caps =
      match caps.range? index with
      | some (start, stop) =>
        match copyEnd? text rule start stop i with
        | some j => [(j, caps)]
        | none => []
      | none => [] := rfl

theorem outcomes_ifGroup (index : Nat) (yes no : Node) :
    (ifGroup index yes no).outcomes text i caps =
      match caps.range? index with
      | some _ => yes.outcomes text i caps
      | none => no.outcomes text i caps := rfl

end Node

namespace Way

/-- The rest goes on from the first outcome that it can. -/
def Explores (way : Way α) (branch : Branch) : Prop :=
  ∀ i caps rest, way i caps rest = (branch i caps).findSome? fun o => rest o.1 o.2

theorem findSome?_flatMap {β γ : Type} (l : List β) (f : β → List γ) (g : γ → Option α) :
    (l.flatMap f).findSome? g = l.findSome? fun b => (f b).findSome? g := by
  induction l with
  | nil => rfl
  | cons b l ih =>
      rw [List.flatMap_cons, List.findSome?_append, ih, List.findSome?_cons]
      cases (f b).findSome? g <;> rfl

theorem orTry_eq_or (first : Option α) (second : Unit → Option α) :
    orTry first second = first.or (second ()) := by
  cases first <;> rfl

theorem findSome?_some {β : Type} (l : List β) : l.findSome? some = l.head? := by
  cases l <;> rfl

namespace Explores

theorem stay : Explores (fun i caps rest => rest i caps : Way α) .stay := by
  intro i caps rest
  simp [Branch.stay]

theorem andThen {first : Way α} {second : Nat → Way α} {b : Branch} {b' : Nat → Branch}
    (hfirst : first.Explores b) (hsecond : ∀ j, (second j).Explores (b' j)) :
    Explores (fun i caps rest => first i caps fun j caps' => second j j caps' rest)
      (b.andThen b') := by
  intro i caps rest
  refine (hfirst i caps _).trans ?_
  rw [Branch.andThen, findSome?_flatMap]
  congr 1
  funext o
  exact hsecond o.1 o.1 o.2 rest

theorem orElse {first second : Way α} {b b' : Branch} (hfirst : first.Explores b)
    (hsecond : second.Explores b') :
    Explores (fun i caps rest => orTry (first i caps rest) fun _ => second i caps rest)
      (b.orElse b') := by
  intro i caps rest
  refine (orTry_eq_or _ _).trans ?_
  rw [hfirst i caps, hsecond i caps, Branch.orElse, List.findSome?_append]

theorem round {body next : Way α} {b b' : Branch} (hbody : body.Explores b)
    (hnext : next.Explores b') :
    Explores (fun i caps rest => body i caps fun j caps' =>
      if j = i then rest j caps' else next j caps' rest) (b.round b') := by
  intro i caps rest
  refine (hbody i caps _).trans ?_
  rw [Branch.round, findSome?_flatMap]
  congr 1
  funext o
  split
  · simp
  · exact hnext o.1 o.2 rest

theorem times {body : Way α} {b : Branch} (hbody : body.Explores b) (n : Nat) :
    (body.times n).Explores (b.times n) := by
  induction n with
  | zero => exact stay
  | succ n ih => exact andThen hbody fun _ => ih

theorem greedy {body : Way α} {b : Branch} (hbody : body.Explores b) (fuel : Nat)
    (limit : Option Nat) : (body.greedy fuel limit).Explores (b.greedy fuel limit) := by
  induction fuel generalizing limit with
  | zero => exact stay
  | succ fuel ih =>
      match limit with
      | some 0 => exact stay
      | some (n + 1) => exact orElse (round hbody (ih _)) stay
      | none => exact orElse (round hbody (ih _)) stay

theorem «lazy» {body : Way α} {b : Branch} (hbody : body.Explores b) (fuel : Nat)
    (limit : Option Nat) : (body.lazy fuel limit).Explores (b.lazy fuel limit) := by
  induction fuel generalizing limit with
  | zero => exact stay
  | succ fuel ih =>
      match limit with
      | some 0 => exact stay
      | some (n + 1) => exact orElse stay (round hbody (ih _))
      | none => exact orElse stay (round hbody (ih _))

theorem found {body : Way Outcome} {b : Branch} (hbody : body.Explores b) (i : Nat)
    (caps : Captures) : (body i caps fun j caps' => some (j, caps')) = (b i caps).head? := by
  rw [hbody i caps, ← findSome?_some]

theorem first {body : Way Outcome} {b : Branch} (hbody : body.Explores b) :
    (body.first : Way α).Explores b.first := by
  intro i caps rest
  rw [Way.first, hbody.found, Branch.first]
  cases b i caps with
  | nil => rfl
  | cons o os => simp

theorem possessive {body : Way Outcome} {b : Branch} (hbody : body.Explores b)
    (least fuel : Nat) (limit : Option Nat) :
    (body.possessive least fuel limit : Way α).Explores (b.possessive least fuel limit) :=
  first (andThen (times (first hbody) least) fun _ => greedy (first hbody) fuel limit)

end Explores

end Way

open Way (Explores) in
/-- The induction is on the tree; as the rest may be anything, each node is explored by itself. -/
theorem Node.explores (text : Array Char) (n : Node) {α : Type} :
    Explores (n.ways text : Way α) (n.outcomes text) := by
  induction n generalizing α with
  | empty => exact .stay
  | char test =>
      intro i caps rest
      simp only [ways, outcomes_char]
      cases text[i]? with
      | none => rfl
      | some c => cases h : test.holds c <;> simp [h]
  | seq first second ihFirst ihSecond => exact .andThen ihFirst fun _ => ihSecond
  | alt first second ihFirst ihSecond => exact .orElse ihFirst ihSecond
  | group index body ih =>
      intro i caps rest
      refine (ih i caps _).trans ?_
      rw [outcomes_group, List.findSome?_map]
      rfl
  | atomic body ih => exact .first ih
  | repetition body least most greed ih =>
      cases greed with
      | greedy => exact .andThen (.times ih least) fun _ => .greedy ih _ _
      | «lazy» => exact .andThen (.times ih least) fun _ => .lazy ih _ _
      | possessive => exact fun i caps rest => Explores.possessive ih least _ _ i caps rest
  | look side negated body ih =>
      intro i caps rest
      simp only [ways, outcomes_look, Explores.found ih]
      cases side with
      | ahead => cases body.outcomes text i caps <;> cases negated <;> simp
      | behind width =>
          by_cases hwidth : width ≤ i
          · simp only [if_pos hwidth]
            cases body.outcomes text (i - width) caps <;> cases negated <;> simp
          · simp only [if_neg hwidth]
            cases negated <;> simp
  | anchor a =>
      intro i caps rest
      simp only [ways, outcomes_anchor]
      split <;> simp
  | backreference index rule =>
      intro i caps rest
      simp only [ways, outcomes_backreference]
      cases caps.range? index with
      | none => rfl
      | some range =>
          simp only
          cases copyEnd? text rule range.1 range.2 i <;> simp
  | ifGroup index yes no ihYes ihNo =>
      intro i caps rest
      simp only [ways, outcomes_ifGroup]
      cases caps.range? index with
      | none => exact ihNo i caps rest
      | some _ => exact ihYes i caps rest

/-- If no two outcomes differ, any of them is the first one. -/
theorem head?_eq_some_iff_of_unique {os : List Outcome} {o : Outcome}
    (hunique : ∀ o ∈ os, ∀ o' ∈ os, o = o') : os.head? = some o ↔ o ∈ os := by
  refine ⟨List.mem_of_head?, fun ho => ?_⟩
  cases os with
  | nil => cases ho
  | cons o' os => rw [List.head?_cons, hunique o ho o' List.mem_cons_self]

end BytecodeViewer.Pattern
