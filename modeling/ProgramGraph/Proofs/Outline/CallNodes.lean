import ProgramGraph.Proofs.Outline.WellFormed

/-! Which calls of a source text get a call site. A walk over the constructs of the text gives each of them a place
    (`Construct.placed`): that of a statement, that of an expression, or one where it is looked through or passed over.
    The call sites of the outline are the calls in the places of statements and expressions, each once
    (`SourceUnit.callSites_perm`). What is passed over besides types, such as the heads of classes and the formats of
    strings, may hold calls too, and these get no site. -/

namespace ProgramGraph
open Syntax

namespace Syntax.Construct
open Automaton

/-! ### Places -/

/-- What a construct is for a walk over the constructs of a text. -/
inductive Place
  | statement
  | expression
  /-- A list of arguments, whose parts are expressions. -/
  | arguments
  /-- A body, whose parts are statements. -/
  | body
  /-- A list of parameters. -/
  | parameters
  /-- A parameter, of which the default is an expression. -/
  | parameter
  /-- A part of a type, however deep. -/
  | type
  /-- What is passed over with all its parts. -/
  | nowhere
  deriving DecidableEq, Repr

/-- The places of what is visited itself. -/
def Place.isVisited : Place → Bool
  | .statement | .expression => true
  | _ => false

/-- How the parts of a construct get their places. What has no other place is passed over. -/
inductive Rule
  | every (place : Place)
  /-- Every part with content has the place. -/
  | voiced (place : Place)
  /-- The text and the replacement fields of a string are expressions. -/
  | pieces
  /-- The first part in each of some roles has a place. -/
  | first (seats : List (Role × Place))

/-- The place of a part, and how the parts after it get theirs. -/
def Rule.next : Rule → Construct → Place × Rule
  | every place, _ => (place, every place)
  | voiced place, c => (if c.isSilent then .nowhere else place, voiced place)
  | pieces, c => (if c.kind = .stringPiece || c.kind = .replacement then .expression else .nowhere, pieces)
  | first seats, c =>
    match seats.find? fun seat => c.role == some seat.1 with
    | some seat => (seat.2, first (seats.filter fun other => other.1 != seat.1))
    | none => (.nowhere, first seats)

/-- How the parts of an expression are placed. Of the constructs with roles only the parts in these are looked at: the
    member of an attribute, the name of a keyword argument and the format of a replacement field are not. -/
def expressionRule (t : SourceText) (kind : Kind) (parts : List Construct) : Rule :=
  match kind with
  | .identifier | .literal | .stringPiece => .every .nowhere
  | .attribute => .first [(.object, .expression)]
  | .call => .first [(.callee, .expression), (.arguments, .arguments)]
  | .keyword | .replacement => .first [(.value, .expression)]
  | .string => if isFormatted t parts then .pieces else .every .nowhere
  | .joinedStrings => if anyFormatted t parts then .voiced .expression else .every .nowhere
  | .typing => .every .type
  | _ => .voiced .expression

/-- How the parts of a statement are placed. The head of a class and the types of a function are passed over. -/
def statementRule (t : SourceText) (kind : Kind) (parts : List Construct) : Rule :=
  match kind with
  | .compound | .loop => .every .statement
  | .functionDefinition =>
    if (roleText t .name parts).isEmpty then .every .nowhere else .first [(.parameters, .parameters), (.body, .body)]
  | .classDefinition => if (roleText t .name parts).isEmpty then .every .nowhere else .first [(.body, .body)]
  | .importing | .importingFrom | .futureImport | .comment | .mark => .every .nowhere
  | kind => expressionRule t kind parts

/-- How the parts of a construct in a place are placed. Types are told apart in what is passed over, too. -/
def rule (t : SourceText) (place : Place) (kind : Kind) (parts : List Construct) : Rule :=
  match place with
  | .statement => statementRule t kind parts
  | .expression => expressionRule t kind parts
  | .arguments => .voiced .expression
  | .body => .every .statement
  | .parameters => .voiced .parameter
  | .parameter => .first [(.value, .expression)]
  | .type => .every .type
  | .nowhere => .every (if kind = .typing then .type else .nowhere)

mutual

/-- A construct and all that it consists of, in the order of the text. -/
def all : Construct → List Construct
  | mk kind role start size parts => mk kind role start size parts :: allIn parts

def allIn : List Construct → List Construct
  | [] => []
  | c :: rest => all c ++ allIn rest

end

mutual

/-- A construct and all that it consists of, each with its place. -/
def placed (t : SourceText) : Place → Construct → List (Place × Construct)
  | place, mk kind role start size parts =>
    (place, mk kind role start size parts) :: placedIn t (rule t place kind parts) parts

def placedIn (t : SourceText) : Rule → List Construct → List (Place × Construct)
  | _, [] => []
  | r, c :: rest => placed t (r.next c).1 c ++ placedIn t (r.next c).2 rest

end

mutual

/-- All constructs have places. -/
theorem map_snd_placed (t : SourceText) (c : Construct) (place : Place) : (placed t place c).map Prod.snd = all c := by
  obtain ⟨kind, role, start, size, parts⟩ := c
  rw [placed, all, List.map_cons, map_snd_placedIn t parts]
termination_by structural c

theorem map_snd_placedIn (t : SourceText) (cs : List Construct) (r : Rule) : (placedIn t r cs).map Prod.snd = allIn cs := by
  cases cs with
  | nil => rfl
  | cons c rest => rw [placedIn, allIn, List.map_append, map_snd_placed t c, map_snd_placedIn t rest]
termination_by structural cs

end

/-- The calls that are visited among constructs with places. -/
def visitedCalls (ns : List (Place × Construct)) : List Construct :=
  (ns.filter fun n => n.1.isVisited && n.2.kind == .call).map Prod.snd

@[simp] theorem visitedCalls_append (ns ms : List (Place × Construct)) :
    visitedCalls (ns ++ ms) = visitedCalls ns ++ visitedCalls ms := by
  simp [visitedCalls]

section
variable (t : SourceText)

theorem visitedCalls_placed (place : Place) (kind : Kind) (role : Option Role) (start size : Extent)
    (parts : List Construct) : visitedCalls (placed t place (mk kind role start size parts)) =
      (if place.isVisited && kind == .call then [mk kind role start size parts] else []) ++
        visitedCalls (placedIn t (rule t place kind parts) parts) := by
  rw [placed]
  unfold visitedCalls
  rw [List.filter_cons]
  change List.map Prod.snd (if (place.isVisited && kind == .call) = true then _ else _) = _
  split <;> rfl

@[simp] theorem visitedCalls_placedIn_nil (r : Rule) : visitedCalls (placedIn t r []) = [] := rfl

@[simp] theorem visitedCalls_placedIn_cons (r : Rule) (c : Construct) (rest : List Construct) :
    visitedCalls (placedIn t r (c :: rest)) =
      visitedCalls (placed t (r.next c).1 c) ++ visitedCalls (placedIn t (r.next c).2 rest) := by
  rw [placedIn, visitedCalls_append]

mutual

/-- Nothing is visited in what is passed over. -/
theorem visitedCalls_passed (c : Construct) {place : Place} (passed : place = .nowhere ∨ place = .type) :
    visitedCalls (placed t place c) = [] := by
  obtain ⟨kind, role, start, size, parts⟩ := c
  have unvisited : place.isVisited = false := by
    rcases passed with rfl | rfl <;> rfl
  obtain ⟨inner, passed', same⟩ : ∃ inner : Place, (inner = .nowhere ∨ inner = .type) ∧
      rule t place kind parts = .every inner := by
    rcases passed with rfl | rfl
    · refine ⟨if kind = .typing then .type else .nowhere, ?_, rfl⟩
      split
      · exact Or.inr rfl
      · exact Or.inl rfl
    · exact ⟨.type, Or.inr rfl, rfl⟩
  rw [visitedCalls_placed, unvisited, same, visitedCalls_every_passed parts passed']
  rfl
termination_by structural c

theorem visitedCalls_every_passed (cs : List Construct) {place : Place} (passed : place = .nowhere ∨ place = .type) :
    visitedCalls (placedIn t (.every place) cs) = [] := by
  cases cs with
  | nil => rfl
  | cons c rest =>
    rw [visitedCalls_placedIn_cons]
    exact List.append_eq_nil_iff.mpr ⟨visitedCalls_passed c passed, visitedCalls_every_passed rest passed⟩
termination_by structural cs

end

@[simp] theorem visitedCalls_nowhere (c : Construct) : visitedCalls (placed t .nowhere c) = [] :=
  visitedCalls_passed t c (Or.inl rfl)

@[simp] theorem visitedCalls_every_nowhere (cs : List Construct) : visitedCalls (placedIn t (.every .nowhere) cs) = [] :=
  visitedCalls_every_passed t cs (Or.inl rfl)

@[simp] theorem visitedCalls_first_nil (cs : List Construct) : visitedCalls (placedIn t (.first []) cs) = [] := by
  induction cs with
  | nil => rfl
  | cons c rest ih => simpa [Rule.next] using ih

/-- Of one seat, the first construct in the role takes it. -/
theorem visitedCalls_first_cons (role : Role) (place : Place) (c : Construct) (rest : List Construct) :
    visitedCalls (placedIn t (.first [(role, place)]) (c :: rest)) =
      if c.role = some role then visitedCalls (placed t place c)
      else visitedCalls (placedIn t (.first [(role, place)]) rest) := by
  by_cases here : c.role = some role <;> simp [Rule.next, here]

/-- Two seats are taken as each of them alone. -/
theorem visitedCalls_first_pair {role role' : Role} (apart : role ≠ role') (place place' : Place) (cs : List Construct) :
    (visitedCalls (placedIn t (.first [(role, place), (role', place')]) cs)).Perm
      (visitedCalls (placedIn t (.first [(role, place)]) cs) ++ visitedCalls (placedIn t (.first [(role', place')]) cs)) := by
  induction cs with
  | nil => simp
  | cons c rest ih =>
    rw [visitedCalls_first_cons, visitedCalls_first_cons, visitedCalls_placedIn_cons]
    by_cases here : c.role = some role
    · have there : c.role ≠ some role' := fun same => apart (Option.some.inj (here.symm.trans same))
      simp [Rule.next, here, apart, apart.symm]
    · by_cases there : c.role = some role'
      · simpa [Rule.next, there, apart, apart.symm] using List.perm_append_comm
      · simpa [Rule.next, here, there] using ih

end

end Syntax.Construct

/-! ### Expressions -/

/-- What a call site tells of its call: the line and what is called. -/
def CallSite.mark (site : CallSite) : Nat × CallTarget :=
  (site.line, site.target)

namespace Syntax.Construct
open Automaton Visit

/-- The line of a call and what is called. -/
def callMark (t : SourceText) (c : Construct) : Nat × CallTarget :=
  (c.start.position.line, callTarget (expressionIn t .callee c.parts))

/-- Call sites for some calls, one for each. -/
def SitesOf (t : SourceText) (sites : List CallSite) (calls : List Construct) : Prop :=
  (sites.map CallSite.mark).Perm (calls.map (callMark t))

section
variable {t : SourceText} {sites sites' : List CallSite} {calls calls' : List Construct}

theorem SitesOf.nil : SitesOf t [] [] := List.Perm.nil

theorem SitesOf.append (ha : SitesOf t sites calls) (hb : SitesOf t sites' calls') :
    SitesOf t (sites ++ sites') (calls ++ calls') := by
  unfold SitesOf
  rw [List.map_append, List.map_append]
  exact List.Perm.append ha hb

theorem SitesOf.cons {site : CallSite} {call : Construct} (same : site.mark = callMark t call) (hs : SitesOf t sites calls) :
    SitesOf t (site :: sites) (call :: calls) := by
  unfold SitesOf
  rw [List.map_cons, List.map_cons, same]
  exact List.Perm.cons _ hs

theorem SitesOf.trans (hs : SitesOf t sites calls) (same : calls.Perm calls') : SitesOf t sites calls' :=
  List.Perm.trans hs (same.map _)

end

section
variable (t : SourceText)

mutual

/-- There is no call in a dotted name. -/
theorem visitedCalls_of_dotted (c : Construct) {text : String} (dotted : dotted? (expression t c) = some text) :
    visitedCalls (placed t .expression c) = [] := by
  obtain ⟨kind, role, start, size, parts⟩ := c
  cases kind with
  | identifier =>
    rw [visitedCalls_placed]
    exact visitedCalls_every_nowhere t parts
  | «attribute» =>
    rw [expression, dotted?] at dotted
    obtain ⟨object, dotted, -⟩ := Option.map_eq_some_iff.mp dotted
    rw [visitedCalls_placed]
    exact visitedCalls_of_dottedIn parts dotted
  | string =>
    rw [expression] at dotted
    split at dotted <;> cases dotted
  | joinedStrings =>
    rw [expression] at dotted
    split at dotted <;> cases dotted
  | _ => cases dotted
termination_by structural c

theorem visitedCalls_of_dottedIn (cs : List Construct) {text : String}
    (dotted : dotted? (expressionIn t .object cs) = some text) :
    visitedCalls (placedIn t (.first [(.object, .expression)]) cs) = [] := by
  cases cs with
  | nil => rfl
  | cons c rest =>
    rw [visitedCalls_first_cons]
    rw [expressionIn] at dotted
    split at dotted
    · rename_i here
      rw [if_pos here]
      exact visitedCalls_of_dotted c dotted
    · rename_i here
      rw [if_neg here]
      exact visitedCalls_of_dottedIn rest dotted
termination_by structural cs

end

/-- What can be told of a callee is that it is a dotted name. -/
theorem dotted_of_callTarget {e : Expr} (told : callTarget e ≠ .computed) : ∃ text, dotted? e = some text := by
  cases e with
  | name start text => exact ⟨text, rfl⟩
  | «attribute» object member written =>
    cases dotted : dotted? object with
    | none =>
      rw [callTarget, dotted] at told
      exact absurd rfl told
    | some text => exact ⟨_, by rw [dotted?, dotted, Option.map_some]⟩
  | _ => exact absurd rfl told

/-- The callee of a call has no calls in it if it is not computed. -/
theorem visitedCalls_callee (cs : List Construct) (named : callTarget (expressionIn t .callee cs) ≠ .computed) :
    visitedCalls (placedIn t (.first [(.callee, .expression)]) cs) = [] := by
  induction cs with
  | nil => rfl
  | cons c rest ih =>
    rw [visitedCalls_first_cons]
    rw [expressionIn] at named
    split at named
    · rename_i here
      rw [if_pos here]
      obtain ⟨text, dotted⟩ := dotted_of_callTarget named
      exact visitedCalls_of_dotted t c dotted
    · rename_i here
      rw [if_neg here]
      exact ih named

variable (v : Visit)

mutual

/-- The call sites of an expression are its visited calls. -/
theorem expression_sites (c : Construct) (s : Scope) (enclosing : Option Nat) (next : Nat) :
    SitesOf t (v.expr s enclosing next (expression t c)).2 (visitedCalls (placed t .expression c)) := by
  obtain ⟨kind, role, start, size, parts⟩ := c
  rw [visitedCalls_placed]
  -- kinds that are read as a group of their parts
  have group : SitesOf t (v.expr s enclosing next (.group (expressions t parts))).2
      (visitedCalls (placedIn t (.voiced .expression) parts)) := by
    rw [expr]
    exact expressions_sites parts s enclosing next
  -- kinds of which no part is read
  have nothing {place : Place} (passed : place = .nowhere ∨ place = .type) :
      SitesOf t [] (visitedCalls (placedIn t (.every place) parts)) := by
    rw [visitedCalls_every_passed t parts passed]
    exact .nil
  cases kind with
  | identifier | literal =>
    rw [expression, expr]
    exact nothing (Or.inl rfl)
  | stringPiece =>
    rw [expression, expr]
    split <;> exact nothing (Or.inl rfl)
  | «attribute» | keyword =>
    rw [expression, expr]
    exact expressionIn_sites _ parts s enclosing next
  | call =>
    rw [expression, expr_call]
    -- The visit goes into a computed callee first, then into the arguments.
    refine .cons rfl ((SitesOf.append ?_ (partsIn_sites .arguments parts _ _ _)).trans
      (visitedCalls_first_pair t (by decide) .expression .arguments parts).symm)
    unfold calleeTraces
    split
    · exact expressionIn_sites .callee parts _ _ _
    · rename_i named
      rw [visitedCalls_callee t parts named]
      exact .nil
  | string =>
    by_cases formatted : isFormatted t parts = true
    · simp only [expression, rule, expressionRule, formatted, if_true]
      rw [expr]
      exact pieces_sites parts _ enclosing next
    · simp only [expression, rule, expressionRule, formatted]
      exact nothing (Or.inl rfl)
  | joinedStrings =>
    by_cases formatted : anyFormatted t parts = true
    · simp only [expression, rule, expressionRule, formatted, if_true]
      exact group
    · simp only [expression, rule, expressionRule, formatted]
      exact nothing (Or.inl rfl)
  | replacement =>
    rw [expression, expr]
    exact expressionIn_sites .value parts _ enclosing next
  | typing =>
    rw [expression, expr]
    exact nothing (Or.inr rfl)
  | _ => exact group
termination_by structural c

theorem expressions_sites (cs : List Construct) (s : Scope) (enclosing : Option Nat) (next : Nat) :
    SitesOf t (v.exprs s enclosing next (expressions t cs)).2 (visitedCalls (placedIn t (.voiced .expression) cs)) := by
  cases cs with
  | nil =>
    rw [expressions, exprs]
    exact .nil
  | cons c rest =>
    rw [visitedCalls_placedIn_cons, expressions]
    by_cases silent : c.isSilent = true
    · simp only [Rule.next, silent, if_true, visitedCalls_nowhere, List.nil_append]
      exact expressions_sites rest s enclosing next
    · simp only [Rule.next, silent, if_false, Bool.false_eq_true]
      rw [exprs]
      exact (expression_sites c s enclosing next).append (expressions_sites rest s enclosing _)
termination_by structural cs

theorem expressionIn_sites (role : Role) (cs : List Construct) (s : Scope) (enclosing : Option Nat) (next : Nat) :
    SitesOf t (v.expr s enclosing next (expressionIn t role cs)).2
      (visitedCalls (placedIn t (.first [(role, .expression)]) cs)) := by
  cases cs with
  | nil =>
    rw [expressionIn, expr, exprs]
    exact .nil
  | cons c rest =>
    rw [visitedCalls_first_cons, expressionIn]
    split
    · exact expression_sites c s enclosing next
    · exact expressionIn_sites role rest s enclosing next
termination_by structural cs

theorem partsIn_sites (role : Role) (cs : List Construct) (s : Scope) (enclosing : Option Nat) (next : Nat) :
    SitesOf t (v.exprs s enclosing next (partsIn t role cs)).2
      (visitedCalls (placedIn t (.first [(role, .arguments)]) cs)) := by
  cases cs with
  | nil =>
    rw [partsIn, exprs]
    exact .nil
  | cons c rest =>
    obtain ⟨kind, r, start, size, parts⟩ := c
    rw [visitedCalls_first_cons, partsIn, visitedCalls_placed]
    change SitesOf t _ (if r = some role then _ else _)
    split
    · exact expressions_sites parts s enclosing next
    · exact partsIn_sites role rest s enclosing next
termination_by structural cs

theorem pieces_sites (cs : List Construct) (s : Scope) (enclosing : Option Nat) (next : Nat) :
    SitesOf t (v.exprs s enclosing next (pieces t cs)).2 (visitedCalls (placedIn t .pieces cs)) := by
  cases cs with
  | nil =>
    rw [pieces, exprs]
    exact .nil
  | cons c rest =>
    rw [visitedCalls_placedIn_cons, pieces]
    split
    · rename_i here
      simp only [Rule.next, here, if_true]
      rw [exprs]
      exact (expression_sites c s enclosing next).append (pieces_sites rest s enclosing _)
    · rename_i here
      simp only [Rule.next, here, if_false, Bool.false_eq_true, visitedCalls_nowhere, List.nil_append]
      exact pieces_sites rest s enclosing next
termination_by structural cs

end

/-! ### Statements -/

theorem visitedCalls_first (role : Role) (place : Place) (cs : List Construct) :
    visitedCalls (placedIn t (.first [(role, place)]) cs) =
      (inRole? role cs).toList.flatMap fun c => visitedCalls (placed t place c) := by
  induction cs with
  | nil => rfl
  | cons c rest ih =>
    rw [visitedCalls_first_cons, inRole?, List.find?_cons]
    by_cases here : c.role = some role
    · simp [here]
    · rw [if_neg here, beq_eq_false_iff_ne.mpr here]
      exact ih

theorem stmts_append_sites (s : Scope) (ts us : List Stmt) (next : Nat) : (v.stmts s next (ts ++ us)).sites =
    (v.stmts s next ts).sites ++ (v.stmts s (next + (v.stmts s next ts).sites.length) us).sites := by
  induction ts generalizing next with
  | nil => rfl
  | cons a ts ih =>
    have first (rest : List Stmt) : (v.stmts s next (a :: rest)).sites =
        (v.stmt s next a).sites ++ (v.stmts s (next + (v.stmt s next a).sites.length) rest).sites := by
      rw [stmts]
      rfl
    rw [List.cons_append, first, first, ih, List.append_assoc, List.length_append, Nat.add_assoc]

theorem stmts_single_sites (s : Scope) (next : Nat) (a : Stmt) : (v.stmts s next [a]).sites = (v.stmt s next a).sites := by
  rw [stmts, stmts]
  exact List.append_nil _

theorem topExprs_single_sites (s : Scope) (next : Nat) (e : Expr) :
    (v.topExprs s next [e]).sites = (v.expr s none next e).2 := by
  simp only [topExprs, exprs, List.append_nil]

/-- The call sites of a parameter are those of its default. -/
theorem parameter_sites (outer inner : Scope) (next : Nat) (c : Construct) :
    SitesOf t (v.parameter outer inner next (parameter t c)).sites (visitedCalls (placed t .parameter c)) := by
  obtain ⟨kind, role, start, size, parts⟩ := c
  rw [visitedCalls_placed]
  change SitesOf t (v.topExprs outer next ((inRole? .value parts).map (expression t)).toList).sites
    (visitedCalls (placedIn t (.first [(.value, .expression)]) parts))
  rw [visitedCalls_first]
  cases inRole? .value parts with
  | none =>
    unfold topExprs
    exact .nil
  | some c =>
    rw [Option.map_some, Option.toList_some, topExprs_single_sites, Option.toList_some, List.flatMap_singleton]
    exact expression_sites t v c outer none next

theorem parameterList_sites (outer inner : Scope) (cs : List Construct) (next : Nat) :
    SitesOf t (v.parameters outer inner next ((cs.filter fun c => !c.isSilent).map (parameter t))).sites
      (visitedCalls (placedIn t (.voiced .parameter) cs)) := by
  induction cs generalizing next with
  | nil => exact .nil
  | cons c rest ih =>
    rw [visitedCalls_placedIn_cons, List.filter_cons]
    by_cases silent : c.isSilent = true
    · simpa [Rule.next, silent] using ih next
    · simp only [Rule.next, silent, Bool.not_false, if_true, if_false, Bool.false_eq_true, List.map_cons]
      rw [Visit.parameters]
      exact (parameter_sites t v outer inner next c).append (ih _)

theorem parameters_sites (outer inner : Scope) (next : Nat) (parts : List Construct) :
    SitesOf t (v.parameters outer inner next (parameters t parts)).sites
      (visitedCalls (placedIn t (.first [(.parameters, .parameters)]) parts)) := by
  unfold Construct.parameters
  rw [visitedCalls_first]
  cases inRole? .parameters parts with
  | none => exact .nil
  | some c =>
    obtain ⟨kind, role, start, size, parts⟩ := c
    rw [Option.toList_some, List.flatMap_singleton, visitedCalls_placed]
    exact parameterList_sites t v outer inner parts next

mutual

/-- The call sites of a statement are its visited calls. -/
theorem statements_sites (c : Construct) (s : Scope) (next : Nat) :
    SitesOf t (v.stmts s next (statements t c)).sites (visitedCalls (placed t .statement c)) := by
  obtain ⟨kind, role, start, size, parts⟩ := c
  have nothing : SitesOf t [] (visitedCalls (placedIn t (.every .nowhere) parts)) := by
    rw [visitedCalls_every_nowhere]
    exact .nil
  -- what is no statement is one that is made of an expression
  have single : SitesOf t (v.stmts s next [.expressions [expression t (mk kind role start size parts)]]).sites
      (visitedCalls (placed t .expression (mk kind role start size parts))) := by
    rw [stmts_single_sites, stmt, topExprs_single_sites]
    exact expression_sites t v _ s none next
  cases kind with
  | compound =>
    rw [visitedCalls_placed, statements, stmts_single_sites, stmt]
    exact allStatements_sites parts s next
  | loop =>
    rw [visitedCalls_placed, statements, stmts_single_sites, stmt]
    exact allStatements_sites parts _ next
  | functionDefinition =>
    rw [visitedCalls_placed, statements]
    by_cases nameless : (roleText t .name parts).isEmpty = true
    · simp only [definition, rule, statementRule, nameless, if_true]
      exact nothing
    · simp only [definition, rule, statementRule, nameless, if_false, Bool.false_eq_true]
      rw [stmts_single_sites, stmt]
      refine ((parameters_sites t v s _ next parts).append (body_sites parts _ _)).trans ?_
      exact (visitedCalls_first_pair t (by decide) .parameters .body parts).symm
  | classDefinition =>
    rw [visitedCalls_placed, statements]
    by_cases nameless : (roleText t .name parts).isEmpty = true
    · simp only [definition, rule, statementRule, nameless, if_true]
      exact nothing
    · simp only [definition, rule, statementRule, nameless, if_false, Bool.false_eq_true]
      rw [stmts_single_sites, stmt]
      exact body_sites parts _ next
  | importing =>
    rw [visitedCalls_placed, statements, stmts_single_sites, stmt, importNames_sites]
    exact nothing
  | importingFrom =>
    rw [visitedCalls_placed, statements, stmts_single_sites, stmt, importMembers_sites]
    exact nothing
  | futureImport | comment | mark =>
    rw [visitedCalls_placed, statements]
    exact nothing
  | group =>
    rw [visitedCalls_placed, statements, stmts_single_sites, stmt]
    exact expressions_sites t v parts s none next
  | _ => exact single
termination_by structural c

theorem allStatements_sites (cs : List Construct) (s : Scope) (next : Nat) :
    SitesOf t (v.stmts s next (allStatements t cs)).sites (visitedCalls (placedIn t (.every .statement) cs)) := by
  cases cs with
  | nil => exact .nil
  | cons c rest =>
    rw [visitedCalls_placedIn_cons, allStatements, stmts_append_sites]
    exact (statements_sites c s next).append (allStatements_sites rest s _)
termination_by structural cs

theorem body_sites (cs : List Construct) (s : Scope) (next : Nat) :
    SitesOf t (v.stmts s next (body t cs)).sites (visitedCalls (placedIn t (.first [(.body, .body)]) cs)) := by
  cases cs with
  | nil => exact .nil
  | cons c rest =>
    obtain ⟨kind, role, start, size, parts⟩ := c
    rw [visitedCalls_first_cons, body, visitedCalls_placed]
    change SitesOf t _ (if role = some .body then _ else _)
    split
    · exact allStatements_sites parts s next
    · exact body_sites rest s next
termination_by structural cs

end

end

end Syntax.Construct

/-! ### Whole files -/

/-- The calls of a text in order, each with the place where it stands. -/
def Syntax.Subtree.callNodes (text : SourceText) (tree : Subtree) : List (Construct.Place × Construct) :=
  (tree.constructs.flatMap (Construct.placed text .body)).filter fun n => n.2.kind == .call

theorem Syntax.Subtree.map_snd_callNodes (text : SourceText) (tree : Subtree) :
    (tree.callNodes text).map Prod.snd = (tree.constructs.flatMap Construct.all).filter fun c => c.kind == .call := by
  have same : (tree.constructs.flatMap (Construct.placed text .body)).map Prod.snd =
      tree.constructs.flatMap Construct.all := by
    simp only [List.map_flatMap, Construct.map_snd_placed]
  rw [← same, List.filter_map]
  rfl

theorem Syntax.Subtree.visitedCalls_callNodes (text : SourceText) (tree : Subtree) :
    Construct.visitedCalls (tree.constructs.flatMap (Construct.placed text .body)) =
      ((tree.callNodes text).filter fun n => n.1.isVisited).map Prod.snd := by
  unfold Construct.visitedCalls callNodes
  rw [List.filter_filter]

theorem Outline.ofStatements_sites (text : SourceText) (cs : List Construct) (labelLimit : Nat) (module path : String) :
    Construct.SitesOf text
      (ofStatements labelLimit module path (cs.flatMap fun c => Construct.allStatements text c.parts)).callSites
      (Construct.visitedCalls (cs.flatMap (Construct.placed text .body))) := by
  let v : Visit := { module, labelLimit := max 1 labelLimit, package := ModuleName.package path module }
  have all (s : Scope) (next : Nat) : Construct.SitesOf text
      (v.stmts s next (cs.flatMap fun c => Construct.allStatements text c.parts)).sites
      (Construct.visitedCalls (cs.flatMap (Construct.placed text .body))) := by
    induction cs generalizing next with
    | nil => exact .nil
    | cons c cs ih =>
      obtain ⟨kind, role, start, size, parts⟩ := c
      rw [List.flatMap_cons, List.flatMap_cons, Construct.stmts_append_sites, Construct.visitedCalls_append,
        Construct.visitedCalls_placed]
      exact (Construct.allStatements_sites text v parts s next).append (ih _)
  exact all v.moduleScope 0

/-- The outline of a file is that of the statements of its tree. -/
theorem SourceUnit.exists_tree {u : SourceUnit} {labelLimit : Nat} {o : Outline} (visited : u.outline labelLimit = .ok o) :
    ∃ tree, Machine.parse (.ofChars u.text.toList) = some tree ∧
      o = .ofStatements labelLimit u.module u.path
        (tree.constructs.flatMap fun c => Construct.allStatements (.ofChars u.text.toList) c.parts) := by
  unfold SourceUnit.outline Syntax.parse parseText at visited
  split at visited
  · rename_i statements parsed
    cases visited
    split at parsed
    · cases parsed
    · rename_i tree found
      split at parsed
      · cases parsed
        exact ⟨tree, found, rfl⟩
      · cases parsed
  · cases visited

theorem SourceUnit.outline_of_tree {u : SourceUnit} (labelLimit : Nat) {tree : Subtree}
    (parsed : Machine.parse (.ofChars u.text.toList) = some tree) (sound : tree.cost = 0) :
    u.outline labelLimit = .ok (.ofStatements labelLimit u.module u.path
      (tree.constructs.flatMap fun c => Construct.allStatements (.ofChars u.text.toList) c.parts)) := by
  refine outline_of_parse labelLimit ?_
  unfold Syntax.parse parseText
  rw [parsed]
  exact if_pos sound

theorem length_filter_eq_length_filter_iff {α : Type} {p q : α → Bool} {l : List α} (sub : ∀ a ∈ l, p a = true → q a = true) :
    (l.filter p).length = (l.filter q).length ↔ ∀ a ∈ l, q a = true → p a = true := by
  have twice : l.filter p = (l.filter q).filter p := by
    rw [List.filter_filter]
    refine List.filter_congr fun a member => ?_
    cases here : p a with
    | false => rfl
    | true => rw [sub a member here]; rfl
  rw [twice, List.length_filter_eq_length_iff]
  simp only [List.mem_filter, and_imp]

/-- Every call of a source text has a place, and the call sites are the calls in the places of statements and
    expressions, each once. These are all calls outside of types exactly if none of those stands in another place. -/
theorem SourceUnit.callSites_perm {u : SourceUnit} {labelLimit : Nat} {o : Outline} (visited : u.outline labelLimit = .ok o) :
    let text := SourceText.ofChars u.text.toList
    ∃ tree, Machine.parse text = some tree ∧
      (tree.callNodes text).map Prod.snd = (tree.constructs.flatMap Construct.all).filter (fun c => c.kind == .call) ∧
      (o.callSites.map CallSite.mark).Perm
        (((tree.callNodes text).filter fun n => n.1.isVisited).map fun n => n.2.callMark text) ∧
      (o.callSites.length = ((tree.callNodes text).filter fun n => n.1 != .type).length ↔
        ∀ n ∈ tree.callNodes text, n.1 ≠ .type → n.1.isVisited = true) := by
  intro text
  obtain ⟨tree, parsed, rfl⟩ := exists_tree visited
  have sites := Outline.ofStatements_sites text tree.constructs labelLimit u.module u.path
  rw [Construct.SitesOf, Syntax.Subtree.visitedCalls_callNodes, List.map_map] at sites
  refine ⟨tree, parsed, tree.map_snd_callNodes text, sites, ?_⟩
  have count := sites.length_eq
  rw [List.length_map, List.length_map] at count
  have outside : ∀ n ∈ tree.callNodes text, n.1.isVisited = true → (n.1 != .type) = true := by
    rintro ⟨place, c⟩ - inside
    cases place <;> first | rfl | cases inside
  rw [count, length_filter_eq_length_filter_iff outside]
  simp only [bne_iff_ne]

set_option maxRecDepth 100000 in
/-- The theorem for a call of what a call gives, with a call in its argument. -/
theorem SourceUnit.callSites_perm_nested :
    let u : SourceUnit := ⟨"m.py", "m", "f(x)(g())\n"⟩
    ∃ o, u.outline 48 = .ok o ∧
      (o.callSites.map CallSite.mark).Perm [(1, .computed), (1, .name "f"), (1, .name "g")] := by
  intro u
  have checked : (Machine.parse (.ofChars u.text.toList)).any (fun tree => decide (tree.cost = 0 ∧
      (((tree.callNodes (.ofChars u.text.toList)).filter fun n => n.1.isVisited).map
        fun n => n.2.callMark (.ofChars u.text.toList)) = [(1, .computed), (1, .name "f"), (1, .name "g")])) = true := by
    decide +kernel
  obtain ⟨tree, parsed, checked⟩ := (Option.any_eq_true ..).mp checked
  obtain ⟨sound, marks⟩ := of_decide_eq_true checked
  have visited := SourceUnit.outline_of_tree 48 parsed sound
  obtain ⟨tree', parsed', -, sites, -⟩ := SourceUnit.callSites_perm visited
  cases parsed.symm.trans parsed'
  rw [marks] at sites
  exact ⟨_, visited, sites⟩

set_option maxRecDepth 100000 in
/-- A call in the head of a class has no call site. -/
theorem SourceUnit.call_in_a_head_is_passed_over :
    let u : SourceUnit := ⟨"m.py", "m", "class C(f()): 0\n"⟩
    ∃ o tree, u.outline 48 = .ok o ∧ Machine.parse (.ofChars u.text.toList) = some tree ∧ o.callSites = [] ∧
      (((tree.callNodes (.ofChars u.text.toList)).filter fun n => n.1 != .type).map
        fun n => n.2.callMark (.ofChars u.text.toList)) = [(1, .name "f")] := by
  intro u
  have checked : (Machine.parse (.ofChars u.text.toList)).any (fun tree => decide (tree.cost = 0 ∧
      (Outline.ofStatements 48 u.module u.path
        (tree.constructs.flatMap fun c => Construct.allStatements (.ofChars u.text.toList) c.parts)).callSites = [] ∧
      (((tree.callNodes (.ofChars u.text.toList)).filter fun n => n.1 != .type).map
        fun n => n.2.callMark (.ofChars u.text.toList)) = [(1, .name "f")])) = true := by
    decide +kernel
  obtain ⟨tree, parsed, checked⟩ := (Option.any_eq_true ..).mp checked
  obtain ⟨sound, none, marks⟩ := of_decide_eq_true checked
  exact ⟨_, tree, SourceUnit.outline_of_tree 48 parsed sound, parsed, none, marks⟩

end ProgramGraph
