import ChocoLang.Syntax
import Mathlib.Data.List.Basic

/-!
# Paths to reads

A read of a name stands at the end of a way into the body around it: behind other statements, in
the branch of a choice, in the body of a loop.  A path is a run along the way; a choice on it may
take either branch and a loop any number of rounds.  Along a straight path no loop that the way
enters has had a round before.
-/

namespace ChocoLang

/-- The condition says that a variable is absent. -/
inductive Expr.SaysAbsent : Expr → String → Prop where
  /-- The variable is on the left. -/
  | left (info : ExprInfo) (name : Identifier) (absent : ExprInfo) :
      SaysAbsent (.binary info (.name name) .is (.none absent)) name.name
  /-- The variable is on the right. -/
  | right (info absent : ExprInfo) (name : Identifier) :
      SaysAbsent (.binary info (.none absent) .is (.name name)) name.name

/-! ## Reads -/

/-- A step on the way to a read. -/
inductive Step where
  /-- Names are assigned by the same assignment before. -/
  | assigned (names : List Identifier)
  /-- A statement comes before. -/
  | behind (stmt : Stmt)
  /-- A condition holds. -/
  | holding (condition : Expr)
  /-- A loop is entered, whose variable takes a value if there is one. -/
  | round (element : Option Identifier) (body : List Stmt)

/-- A name that is read, with the way to it. -/
structure Read where
  /-- The steps to the read, outermost first. -/
  way : List Step
  /-- The name. -/
  name : Identifier

/-- The same read behind one more step. -/
def Read.inside (step : Step) (read : Read) : Read := { read with way := step :: read.way }

mutual

/-- The names that are read in an expression; a name that is called is read, too. -/
def Expr.reads : Expr → List Read
  | .name identifier => [⟨[], identifier⟩]
  | .integer _ _ | .boolean _ _ | .string _ _ | .none _ => []
  | .list _ elements => Expr.readsIn elements
  | .binary _ left _ right => left.reads ++ right.reads
  | .unary _ _ operand => operand.reads
  | .conditional _ condition thenExpr elseExpr =>
    condition.reads ++ thenExpr.reads.map (Read.inside (.holding condition)) ++ elseExpr.reads
  | .member _ object _ => object.reads
  | .index _ container position => container.reads ++ position.reads
  | .call _ function args => ⟨[], function⟩ :: Expr.readsIn args
  | .methodCall _ _ object _ args => object.reads ++ Expr.readsIn args

/-- The names that are read in expressions. -/
def Expr.readsIn : List Expr → List Read
  | [] => []
  | expr :: rest => expr.reads ++ Expr.readsIn rest

end

/-- The name that is assigned if the target is one. -/
def Expr.targetNames : Expr → List Identifier
  | .name identifier => [identifier]
  | _ => []

/-- The names that are read in a target. -/
def Expr.targetReads : Expr → List Read
  | .name _ => []
  | target => target.reads

/-- The names that are read in targets, each of them behind those before it. -/
def targetReadsIn : List Expr → List Read
  | [] => []
  | target :: rest =>
    target.targetReads ++ (targetReadsIn rest).map (Read.inside (.assigned target.targetNames))

mutual

/-- The names that are read in a statement. -/
def Stmt.reads : Stmt → List Read
  | .expr _ value => value.reads
  | .assign _ targets value => value.reads ++ targetReadsIn targets
  | .ifElse _ condition thenBody elseBody =>
    condition.reads ++ (Stmt.readsIn thenBody).map (Read.inside (.holding condition))
      ++ Stmt.readsIn elseBody
  | .whileLoop _ condition body =>
    (condition.reads ++ Stmt.readsIn body).map (Read.inside (.round none body))
  | .forLoop _ element iterable body =>
    iterable.reads ++ (Stmt.readsIn body).map (Read.inside (.round (some element) body))
  | .ret _ value => value.elim [] Expr.reads

/-- The names that are read in statements, each of them behind those before it. -/
def Stmt.readsIn : List Stmt → List Read
  | [] => []
  | stmt :: rest => stmt.reads ++ (Stmt.readsIn rest).map (Read.inside (.behind stmt))

end

mutual

/-- The names that are read in a declaration; the way to each begins at the body around it. -/
def Decl.reads : Decl → List Read
  | .varDef _ _ value => value.reads
  | .funcDef _ _ declarations statements _ => Decl.readsIn declarations ++ Stmt.readsIn statements
  | .classDef _ _ _ declarations => Decl.readsIn declarations
  | .globalDecl _ _ | .nonlocalDecl _ _ => []

/-- The names that are read in declarations. -/
def Decl.readsIn : List Decl → List Read
  | [] => []
  | decl :: rest => decl.reads ++ Decl.readsIn rest

end

/-- The names that are read in a program. -/
def Program.reads (program : Program) : List Read :=
  Decl.readsIn program.declarations ++ Stmt.readsIn program.statements

/-! ## Assigned names -/

mutual

/-- The names that are assigned in a statement. -/
def Stmt.assigned : Stmt → List Identifier
  | .assign _ targets _ => targets.flatMap Expr.targetNames
  | .ifElse _ _ thenBody elseBody => Stmt.assignedIn thenBody ++ Stmt.assignedIn elseBody
  | .whileLoop _ _ body => Stmt.assignedIn body
  | .forLoop _ element _ body => element :: Stmt.assignedIn body
  | .expr _ _ | .ret _ _ => []

/-- The names that are assigned in statements. -/
def Stmt.assignedIn : List Stmt → List Identifier
  | [] => []
  | stmt :: rest => stmt.assigned ++ Stmt.assignedIn rest

end

/-- The names that are assigned at a step, but for earlier rounds of a loop. -/
def Step.names : Step → List Identifier
  | .assigned names => names
  | .behind stmt => stmt.assigned
  | .holding _ => []
  | .round element _ => element.toList

/-! ## Paths -/

/-- A run through statements to their end assigns certain names; a return has no run to its end. -/
inductive Passes : List Stmt → List Identifier → Prop where
  /-- There is nothing to do. -/
  | nil : Passes [] []
  /-- An expression assigns nothing. -/
  | expr {info : NodeInfo} {value : Expr} {rest : List Stmt} {trace : List Identifier}
      (later : Passes rest trace) : Passes (.expr info value :: rest) trace
  /-- An assignment assigns its targets. -/
  | assign {info : NodeInfo} {targets : List Expr} {value : Expr} {rest : List Stmt}
      {trace : List Identifier} (later : Passes rest trace) :
      Passes (.assign info targets value :: rest) (targets.flatMap Expr.targetNames ++ trace)
  /-- The first branch of a choice is taken. -/
  | thenBranch {info : NodeInfo} {condition : Expr} {thenBody elseBody rest : List Stmt}
      {during trace : List Identifier} (inner : Passes thenBody during)
      (later : Passes rest trace) :
      Passes (.ifElse info condition thenBody elseBody :: rest) (during ++ trace)
  /-- The second branch of a choice is taken. -/
  | elseBranch {info : NodeInfo} {condition : Expr} {thenBody elseBody rest : List Stmt}
      {during trace : List Identifier} (inner : Passes elseBody during)
      (later : Passes rest trace) :
      Passes (.ifElse info condition thenBody elseBody :: rest) (during ++ trace)
  /-- A loop under a condition ends. -/
  | whileDone {info : NodeInfo} {condition : Expr} {body rest : List Stmt}
      {trace : List Identifier} (later : Passes rest trace) :
      Passes (.whileLoop info condition body :: rest) trace
  /-- A loop under a condition has a round. -/
  | whileRound {info : NodeInfo} {condition : Expr} {body rest : List Stmt}
      {during trace : List Identifier} (inner : Passes body during)
      (later : Passes (.whileLoop info condition body :: rest) trace) :
      Passes (.whileLoop info condition body :: rest) (during ++ trace)
  /-- A loop over elements ends. -/
  | forDone {info : NodeInfo} {element : Identifier} {iterable : Expr} {body rest : List Stmt}
      {trace : List Identifier} (later : Passes rest trace) :
      Passes (.forLoop info element iterable body :: rest) trace
  /-- A loop over elements has a round. -/
  | forRound {info : NodeInfo} {element : Identifier} {iterable : Expr} {body rest : List Stmt}
      {during trace : List Identifier} (inner : Passes body during)
      (later : Passes (.forLoop info element iterable body :: rest) trace) :
      Passes (.forLoop info element iterable body :: rest) (element :: during ++ trace)

/--
A path along a way assigns certain names.  Unless rounds are repeated, each loop on the way is in
its first round.
-/
inductive Path (repeats : Prop) : List Step → List Identifier → Prop where
  /-- The read is reached. -/
  | here : Path repeats [] []
  /-- Names have been assigned. -/
  | assigned {names : List Identifier} {way : List Step} {trace : List Identifier}
      (later : Path repeats way trace) : Path repeats (.assigned names :: way) (names ++ trace)
  /-- A statement is run through. -/
  | behind {stmt : Stmt} {way : List Step} {during trace : List Identifier}
      (passes : Passes [stmt] during) (later : Path repeats way trace) :
      Path repeats (.behind stmt :: way) (during ++ trace)
  /-- A condition holds. -/
  | holding {condition : Expr} {way : List Step} {trace : List Identifier}
      (later : Path repeats way trace) : Path repeats (.holding condition :: way) trace
  /-- The read is reached in this round of a loop. -/
  | round {element : Option Identifier} {body : List Stmt} {way : List Step}
      {trace : List Identifier} (later : Path repeats way trace) :
      Path repeats (.round element body :: way) (element.toList ++ trace)
  /-- The read is reached in a later round of a loop. -/
  | again {element : Option Identifier} {body : List Stmt} {way : List Step}
      {during trace : List Identifier} (allowed : repeats) (passes : Passes body during)
      (later : Path repeats (.round element body :: way) trace) :
      Path repeats (.round element body :: way) (element.toList ++ during ++ trace)

/-- A path on which the loops may have had rounds before. -/
abbrev Reaches : List Step → List Identifier → Prop := Path True

/-- A path on which every loop is in its first round. -/
abbrev Straight : List Step → List Identifier → Prop := Path False

/-- A variable is among the names that are assigned. -/
def Assigns (trace : List Identifier) (target : String) : Prop :=
  ∃ name ∈ trace, name.name = target

theorem assigns_append (first second : List Identifier) (target : String) :
    Assigns (first ++ second) target ↔ Assigns first target ∨ Assigns second target := by
  simp [Assigns, or_and_right, exists_or]

/-- What is assigned in a run is assigned in the statements. -/
theorem Passes.mem_assignedIn {stmts : List Stmt} {trace : List Identifier}
    (passes : Passes stmts trace) : ∀ name ∈ trace, name ∈ Stmt.assignedIn stmts := by
  induction passes with
  | nil => simp
  | expr _ later => simpa [Stmt.assignedIn, Stmt.assigned] using later
  | assign _ later | thenBranch _ _ inner later | elseBranch _ _ inner later
  | whileDone _ later | whileRound _ _ inner later | forDone _ later
  | forRound _ _ inner later =>
      simp only [Stmt.assignedIn, Stmt.assigned, List.cons_append, List.mem_cons,
        List.mem_append] at *
      grind

/-- What is assigned along a straight path is assigned at its steps. -/
theorem Straight.mem_names {way : List Step} {trace : List Identifier}
    (straight : Straight way trace) : ∀ name ∈ trace, ∃ step ∈ way, name ∈ step.names := by
  induction straight with
  | here => simp
  | assigned _ later | round _ later =>
      intro name among
      rw [List.exists_mem_cons_iff]
      exact (List.mem_append.mp among).imp_right (later name)
  | behind passes _ later =>
      intro name among
      rw [List.exists_mem_cons_iff]
      refine (List.mem_append.mp among).imp (fun inside => ?_) (later name)
      simpa [Stmt.assignedIn, Step.names] using passes.mem_assignedIn name inside
  | holding _ later => exact fun name among => List.exists_mem_cons_of_exists (later name among)
  | again impossible => exact impossible.elim

/-! ## Rounds -/

theorem Straight.reaches {way : List Step} {trace : List Identifier}
    (straight : Straight way trace) : Reaches way trace := by
  induction straight with
  | here => exact .here
  | assigned _ later => exact .assigned later
  | behind passes _ later => exact .behind passes later
  | holding _ later => exact .holding later
  | round _ later => exact .round later
  | again impossible => exact impossible.elim

/-- Where a straight path leads, a loop on the way may have had any round before. -/
theorem Straight.exists_reaches {way : List Step} {trace : List Identifier}
    (straight : Straight way trace) {element : Option Identifier} {body : List Stmt}
    (loop : .round element body ∈ way) {during : List Identifier} (passes : Passes body during) :
    ∃ whole, Reaches way whole ∧ ∀ name ∈ during, name ∈ whole := by
  induction straight with
  | here => cases loop
  | assigned _ later =>
      obtain ⟨whole, reaches, among⟩ := later (by simpa using loop)
      exact ⟨_, .assigned reaches, fun name inside => List.mem_append_right _ (among name inside)⟩
  | behind before _ later =>
      obtain ⟨whole, reaches, among⟩ := later (by simpa using loop)
      exact ⟨_, .behind before reaches,
        fun name inside => List.mem_append_right _ (among name inside)⟩
  | holding _ later =>
      obtain ⟨whole, reaches, among⟩ := later (by simpa using loop)
      exact ⟨_, .holding reaches, among⟩
  | round straight later =>
      rcases List.mem_cons.mp loop with same | deeper
      · cases same
        exact ⟨_, .again trivial passes (.round (Straight.reaches straight)),
          fun name inside => List.mem_append_left _ (List.mem_append_right _ inside)⟩
      · obtain ⟨whole, reaches, among⟩ := later deeper
        exact ⟨_, .round reaches, fun name inside => List.mem_append_right _ (among name inside)⟩
  | again impossible => exact impossible.elim

/-- A loop on the way can have a round in which the variable is assigned. -/
def RoundAssigns (way : List Step) (target : String) : Prop :=
  ∃ element body, Step.round element body ∈ way ∧
    ∃ during, Passes body during ∧ Assigns during target

/-- Where a path leads a straight one does; it assigns as much unless a round has done so. -/
theorem Path.exists_straight {way : List Step} {trace : List Identifier}
    (reaches : Reaches way trace) (target : String) :
    ∃ direct, Straight way direct ∧
      (Assigns trace target → Assigns direct target ∨ RoundAssigns way target) := by
  have deeper {step : Step} {way : List Step} (round : RoundAssigns way target) :
      RoundAssigns (step :: way) target := by
    obtain ⟨element, body, among, ran⟩ := round
    exact ⟨element, body, List.mem_cons_of_mem _ among, ran⟩
  induction reaches with
  | here => exact ⟨[], .here, .inl⟩
  | assigned _ later =>
      obtain ⟨direct, straight, found⟩ := later
      refine ⟨_, .assigned straight, ?_⟩
      rw [assigns_append, assigns_append]
      exact fun assigns => (assigns.imp_right found).elim (.inl ∘ .inl) (.imp .inr deeper)
  | behind passes _ later =>
      obtain ⟨direct, straight, found⟩ := later
      refine ⟨_, .behind passes straight, ?_⟩
      rw [assigns_append, assigns_append]
      exact fun assigns => (assigns.imp_right found).elim (.inl ∘ .inl) (.imp .inr deeper)
  | holding _ later =>
      obtain ⟨direct, straight, found⟩ := later
      exact ⟨_, .holding straight, fun assigns => (found assigns).imp_right deeper⟩
  | round _ later =>
      obtain ⟨direct, straight, found⟩ := later
      refine ⟨_, .round straight, ?_⟩
      rw [assigns_append, assigns_append]
      exact fun assigns => (assigns.imp_right found).elim (.inl ∘ .inl) (.imp .inr deeper)
  | again _ passes _ later =>
      obtain ⟨direct, straight, found⟩ := later
      refine ⟨direct, straight, ?_⟩
      rw [assigns_append, assigns_append]
      rintro ((value | inRound) | before)
      · cases straight with
        | round _ => exact .inl ((assigns_append _ _ _).mpr (.inl value))
        | again impossible => exact impossible.elim
      · exact .inr ⟨_, _, List.mem_cons_self, _, passes, inRound⟩
      · exact found before

/--
A variable can be assigned on the way to a read if it is on a straight path, or if there is one and
a loop on the way can have a round that assigns the variable.
-/
theorem exists_reaches_assigns_iff (way : List Step) (target : String) :
    (∃ trace, Reaches way trace ∧ Assigns trace target) ↔
      (∃ trace, Straight way trace ∧ Assigns trace target) ∨
        (∃ trace, Straight way trace) ∧ RoundAssigns way target := by
  constructor
  · rintro ⟨trace, reaches, assigns⟩
    obtain ⟨direct, straight, found⟩ := Path.exists_straight reaches target
    exact (found assigns).imp (fun assigns => ⟨direct, straight, assigns⟩)
      fun round => ⟨⟨direct, straight⟩, round⟩
  · rintro (⟨trace, straight, assigns⟩ | ⟨⟨trace, straight⟩, round⟩)
    · exact ⟨trace, straight.reaches, assigns⟩
    · obtain ⟨element, body, loop, during, passes, name, inside, same⟩ := round
      obtain ⟨whole, reaches, among⟩ := straight.exists_reaches loop passes
      exact ⟨whole, reaches, name, among name inside, same⟩

end ChocoLang
