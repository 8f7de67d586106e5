import ChocoLang.Proofs.Checking.Establishes
import ChocoLang.Proofs.Syntax.Labels

/-!
# Soundness of checking expressions

If no problem is found in an expression, then it is typed by the rules, and every type recorded in
it is known.
-/

namespace ChocoLang

/-- A type that is recorded is known. -/
def Label.Known (label : Label) : Prop := ∀ type ∈ label.type, type.Known

theorem Label.Fresh.known {label : Label} (fresh : label.Fresh) : label.Known := by
  intro type recorded
  rw [fresh.2] at recorded
  cases recorded

theorem Outline.All.mono {property weaker : Label → Prop} {outline : Outline}
    (all : outline.All property) (imp : ∀ label, property label → weaker label) :
    outline.All weaker := by
  rw [Outline.all_iff_preorder] at all ⊢
  exact fun one among => imp _ (all one among)

@[simp]
theorem known_label_iff (kind : NodeKind) (info : NodeInfo) : (info.label kind).Known ↔ True := by
  simp [Label.Known, NodeInfo.label]

@[simp]
theorem known_label_iff_expr (kind : NodeKind) (info : ExprInfo) :
    (info.label kind).Known ↔ ∀ type ∈ info.type, type.Known :=
  Iff.rfl

@[simp]
theorem known_outline_iff_name (identifier : Identifier) :
    identifier.outline.All Label.Known ↔ ∀ type ∈ identifier.info.type, type.Known := by
  simp [Identifier.outline, Label.Known, ExprInfo.label]

attribute [simp] Identifier.fresh_outline_iff

theorem Expr.error_of_fresh {expr : Expr} (fresh : expr.outline.Fresh) :
    expr.info.error = Option.none := by
  cases expr <;> simp_all [Expr.outline, Expr.info]

/--
The expression has been checked without a problem: it is of the type recorded at it, and every type
recorded in it is known.
-/
structure Expr.Accepted (hierarchy : ClassHierarchy) (expr : Expr) : Prop where
  /-- No error is recorded at the expression. -/
  error : expr.info.error = Option.none
  /-- The expression is of its type. -/
  typed : expr.Typed hierarchy expr.type
  /-- The types in the expression are known. -/
  known : expr.outline.All Label.Known

theorem Expr.known_of_known_outline {expr : Expr} {type : ValueType}
    (known : expr.outline.All Label.Known) (recorded : expr.info.type = some type) :
    type.Known := by
  cases expr with
  | name identifier => exact (known_outline_iff_name identifier).mp known type recorded
  | _ =>
      simp only [Expr.outline, Outline.all_node, known_label_iff_expr] at known
      exact known.1 type recorded

theorem Expr.Accepted.type_known {hierarchy : ClassHierarchy} {expr : Expr}
    (accepted : expr.Accepted hierarchy) : expr.type.Known :=
  known_of_known_outline accepted.known accepted.typed.recorded

theorem forall₂_accepted {hierarchy : ClassHierarchy} {exprs : List Expr}
    (accepted : ∀ expr ∈ exprs, expr.Accepted hierarchy) :
    List.Forall₂ (Expr.Typed hierarchy) exprs (exprs.map Expr.type) := by
  rw [List.forall₂_map_right_iff, List.forall₂_same]
  exact fun expr among => (accepted expr among).typed

namespace Check

variable {hierarchy : ClassHierarchy} {result : Option ValueType}

/-- What is settled without an error keeps no error and has the type of the verdict. -/
theorem settled_establishes {invariant : CheckState → Prop} {verdict : Verdict} {expr : Expr}
    (fresh : expr.info.error = none)
    (accepted : verdict.error = none →
      (expr.withInfo { expr.info with type := some verdict.type }).Typed hierarchy verdict.type ∧
        (expr.withInfo { expr.info with type := some verdict.type }).outline.All Label.Known) :
    Establishes invariant (settleExpr verdict expr) fun settled => settled.Accepted hierarchy := by
  refine (settleExpr_establishes fresh).mono ?_
  rintro _ ⟨clean, rfl⟩
  obtain ⟨typed, known⟩ := accepted clean
  exact ⟨by simpa using fresh, by rwa [typed.type_eq], known⟩

theorem demand_establishes {invariant : CheckState → Prop} {wanted : ValueType}
    {error : ValueType → CheckError} {expr : Expr} (accepted : expr.Accepted hierarchy) :
    Establishes invariant (demand wanted error expr) fun demanded =>
      demanded.Accepted hierarchy ∧ demanded.type = wanted := by
  refine .ite (fun suits => .pure ⟨accepted, ?_⟩) fun _ =>
    (reportExpr_establishes accepted.error).bind fun _ impossible => impossible.elim
  simpa [accepted.type_known.isUnknown] using suits

/-! ## Expressions, form by form -/

/-- Where nothing is recorded, checking the expression without finding a problem types it. -/
def SoundAt (hierarchy : ClassHierarchy) (result : Option ValueType) (expr : Expr) : Prop :=
  expr.outline.Fresh → Establishes (CheckState.Sound hierarchy result) (infer expr)
    fun checked => checked.Accepted hierarchy

/-- Where nothing is recorded, checking the expressions without finding a problem types them. -/
def SoundAtAll (hierarchy : ClassHierarchy) (result : Option ValueType) (exprs : List Expr) :
    Prop :=
  (∀ expr ∈ exprs, expr.outline.Fresh) → Establishes (CheckState.Sound hierarchy result)
    (inferAll exprs) fun checked => ∀ expr ∈ checked, expr.Accepted hierarchy

theorem soundAt_name (identifier : Identifier) : SoundAt hierarchy result (.name identifier) := by
  intro fresh
  unfold infer
  refine .bind .view ?_
  rintro verdict ⟨state, sound, rfl⟩
  refine settled_establishes (Expr.error_of_fresh fresh) fun clean => ⟨.name rfl, ?_⟩
  simpa [Expr.outline, Expr.withInfo] using sound.scope.readVerdict clean

theorem soundAt_literal {expr : Expr} (literal : expr.isLiteral) :
    SoundAt hierarchy result expr := by
  intro fresh
  have unspoiled := Expr.error_of_fresh fresh
  cases expr with
  | integer info value =>
      unfold infer
      exact settled_establishes unspoiled fun _ =>
        ⟨.integer rfl, by simp [Expr.outline, Expr.withInfo]⟩
  | boolean info value =>
      unfold infer
      exact settled_establishes unspoiled fun _ =>
        ⟨.boolean rfl, by simp [Expr.outline, Expr.withInfo]⟩
  | string info value =>
      unfold infer
      exact settled_establishes unspoiled fun _ =>
        ⟨.string rfl, by simp [Expr.outline, Expr.withInfo]⟩
  | none info =>
      unfold infer
      exact settled_establishes unspoiled fun _ =>
        ⟨.none rfl, by simp [Expr.outline, Expr.withInfo]⟩
  | _ => cases literal

theorem soundAt_list (info : ExprInfo) {elements : List Expr}
    (each : SoundAtAll hierarchy result elements) :
    SoundAt hierarchy result (.list info elements) := by
  intro fresh
  simp only [Expr.outline, Outline.all_node, fresh_label_iff_expr, Expr.allIn_outlines] at fresh
  unfold infer
  refine (each fresh.2).bind fun elements accepted => .bind .view ?_
  rintro type ⟨state, sound, rfl⟩
  rw [sound.classes]
  refine settled_establishes fresh.1.1 fun _ => ⟨.list rfl (forall₂_accepted accepted), ?_⟩
  have known : (hierarchy.displayType (elements.map Expr.type)).Known :=
    hierarchy.displayType_known (by simpa using fun expr among => (accepted expr among).type_known)
  simpa [Expr.outline, Expr.withInfo] using ⟨known, fun expr among => (accepted expr among).known⟩

theorem soundAt_binary (info : ExprInfo) (operator : BinaryOperator) {left right : Expr}
    (first : SoundAt hierarchy result left) (second : SoundAt hierarchy result right) :
    SoundAt hierarchy result (.binary info left operator right) := by
  intro fresh
  simp only [Expr.outline, Outline.all_node, fresh_label_iff_expr, Outline.allIn_cons,
    Outline.allIn_nil] at fresh
  unfold infer
  refine (first fresh.2.1).bind fun left first => (second fresh.2.2.1).bind fun right second =>
    .bind .view ?_
  rintro verdict ⟨state, sound, rfl⟩
  rw [sound.classes]
  refine settled_establishes fresh.1.1 fun clean => ?_
  have takes := ClassHierarchy.takes_of_operationVerdict first.type_known second.type_known clean
  refine ⟨.binary rfl first.typed second.typed takes, ?_⟩
  simpa [Expr.outline, Expr.withInfo] using
    ⟨takes.known first.type_known second.type_known, first.known, second.known⟩

theorem soundAt_unary (info : ExprInfo) (operator : UnaryOperator) {operand : Expr}
    (within : SoundAt hierarchy result operand) :
    SoundAt hierarchy result (.unary info operator operand) := by
  intro fresh
  simp only [Expr.outline, Outline.all_node, fresh_label_iff_expr, Outline.allIn_cons,
    Outline.allIn_nil] at fresh
  unfold infer
  refine (within fresh.2.1).bind fun operand accepted =>
    settled_establishes fresh.1.1 fun clean => ?_
  have same := UnaryOperator.operand_eq accepted.type_known clean
  rw [operator.verdict_type]
  refine ⟨.unary rfl (same ▸ accepted.typed), ?_⟩
  simpa [Expr.outline, Expr.withInfo] using ⟨operator.operandType_known, accepted.known⟩

theorem soundAt_conditional (info : ExprInfo) {condition thenExpr elseExpr : Expr}
    (asked : SoundAt hierarchy result condition) (first : SoundAt hierarchy result thenExpr)
    (second : SoundAt hierarchy result elseExpr) :
    SoundAt hierarchy result (.conditional info condition thenExpr elseExpr) := by
  intro fresh
  simp only [Expr.outline, Outline.all_node, fresh_label_iff_expr, Outline.allIn_cons,
    Outline.allIn_nil] at fresh
  unfold infer
  refine (asked fresh.2.1).bind fun condition accepted =>
    (demand_establishes accepted).bind fun condition decides =>
    (assuming_establishes (first fresh.2.2.1)).bind fun thenExpr first =>
    (second fresh.2.2.2.1).bind fun elseExpr second => .bind .view ?_
  rintro type ⟨state, sound, rfl⟩
  rw [sound.classes]
  refine settled_establishes fresh.1.1 fun _ =>
    ⟨.conditional rfl (decides.2 ▸ decides.1.typed) first.typed second.typed, ?_⟩
  simpa [Expr.outline, Expr.withInfo] using
    ⟨hierarchy.join_known first.type_known second.type_known, decides.1.known, first.known,
      second.known⟩

theorem soundAt_member (classes : hierarchy.Sound) (info : ExprInfo) (field : Identifier)
    {object : Expr} (within : SoundAt hierarchy result object) :
    SoundAt hierarchy result (.member info object field) := by
  intro fresh
  simp only [Expr.outline, Outline.all_node, fresh_label_iff_expr, Outline.allIn_cons,
    Outline.allIn_nil] at fresh
  unfold infer
  refine (within fresh.2.1).bind fun object accepted => .bind .view ?_
  rintro verdict ⟨state, sound, rfl⟩
  rw [sound.classes]
  refine settled_establishes fresh.1.1 fun clean => ?_
  obtain ⟨name, owner, shape, found, listed, known⟩ :=
    ClassHierarchy.attribute_of_attributeVerdict classes accepted.type_known clean
  refine ⟨.member rfl (shape ▸ accepted.typed) found listed, ?_⟩
  simpa [Expr.outline, Expr.withInfo] using
    ⟨known, accepted.known, by simp [(field.fresh_outline_iff.mp fresh.2.2.1).2]⟩

theorem soundAt_index (info : ExprInfo) {container position : Expr}
    (outer : SoundAt hierarchy result container) (inner : SoundAt hierarchy result position) :
    SoundAt hierarchy result (.index info container position) := by
  intro fresh
  simp only [Expr.outline, Outline.all_node, fresh_label_iff_expr, Outline.allIn_cons,
    Outline.allIn_nil] at fresh
  unfold infer
  refine (outer fresh.2.1).bind fun container accepted =>
    (inner fresh.2.2.1).bind fun position acceptedPosition =>
    (demand_establishes acceptedPosition).bind fun position place =>
    settled_establishes fresh.1.1 fun clean => ?_
  obtain ⟨holds, known⟩ := holds_of_indexVerdict accepted.type_known clean
  refine ⟨.index rfl accepted.typed (place.2 ▸ place.1.typed) holds, ?_⟩
  simpa [Expr.outline, Expr.withInfo] using ⟨known, accepted.known, place.1.known⟩

theorem soundAt_call (classes : hierarchy.Sound) (info : ExprInfo) (function : Identifier)
    {args : List Expr} (each : SoundAtAll hierarchy result args) :
    SoundAt hierarchy result (.call info function args) := by
  intro fresh
  simp only [Expr.outline, Outline.all_node, fresh_label_iff_expr, Outline.allIn_cons,
    Expr.allIn_outlines, Identifier.fresh_outline_iff] at fresh
  unfold infer
  refine (each fresh.2.2).bind fun args accepted => .bind .get fun state sound =>
    (settle_establishes fresh.2.1.1).bind ?_
  rintro callee ⟨calleeClean, rfl⟩
  refine settled_establishes fresh.1.1 fun callClean => ?_
  rw [sound.classes] at calleeClean callClean ⊢
  obtain ⟨params, fits⟩ := ClassHierarchy.fits_of_nameCallVerdict classes sound.scope calleeClean
    callClean
  refine ⟨.call rfl (congrArg some fits.callee) (forall₂_accepted accepted) fits.fit, ?_⟩
  have known := fits.known
  simp only [ValueType.known_function] at known
  simpa [Expr.outline, Expr.withInfo, fits.callee] using
    ⟨known.2, known, fun expr among => (accepted expr among).known⟩

theorem soundAt_methodCall (classes : hierarchy.Sound) (info access : ExprInfo)
    (method : Identifier) {object : Expr} {args : List Expr}
    (within : SoundAt hierarchy result object) (each : SoundAtAll hierarchy result args) :
    SoundAt hierarchy result (.methodCall info access object method args) := by
  intro fresh
  simp only [Expr.outline, Outline.all_node, fresh_label_iff_expr, Outline.allIn_cons,
    Outline.allIn_nil, Expr.allIn_outlines, Identifier.fresh_outline_iff] at fresh
  obtain ⟨⟨infoFresh, -⟩, ⟨⟨accessFresh, -⟩, objectFresh, methodFresh, -⟩, argsFresh⟩ := fresh
  unfold infer
  refine (within objectFresh).bind fun object acceptedObject =>
    (each argsFresh).bind fun args accepted => .bind .view ?_
  rintro verdict ⟨state, sound, rfl⟩
  rw [sound.classes]
  refine (settle_establishes accessFresh).bind ?_
  rintro access ⟨calleeClean, rfl⟩
  refine settled_establishes infoFresh fun callClean => ?_
  obtain ⟨name, owner, signature, shape, found, listed, returns, fits⟩ :=
    ClassHierarchy.fits_of_methodCallVerdict classes acceptedObject.type_known calleeClean
      callClean
  have known := fits.known
  simp only [Signature.type, ValueType.known_function] at known
  rw [returns]
  refine ⟨.methodCall rfl (congrArg some fits.callee) (shape ▸ acceptedObject.typed) found listed
    (forall₂_accepted accepted) fits.fit, ?_⟩
  simpa [Expr.outline, Expr.withInfo, fits.callee, methodFresh.2, Signature.type] using
    ⟨known.2, ⟨known, acceptedObject.known⟩, fun expr among => (accepted expr among).known⟩

theorem soundAtAll_nil : SoundAtAll hierarchy result [] := by
  intro _
  unfold inferAll
  exact .pure (by simp)

theorem soundAtAll_cons {expr : Expr} {rest : List Expr} (first : SoundAt hierarchy result expr)
    (others : SoundAtAll hierarchy result rest) :
    SoundAtAll hierarchy result (expr :: rest) := by
  intro fresh
  rw [List.forall_mem_cons] at fresh
  unfold inferAll
  exact (first fresh.1).bind fun expr accepted => (others fresh.2).bind fun rest more =>
    .pure (List.forall_mem_cons.mpr ⟨accepted, more⟩)

mutual

/-- Checking an expression without finding a problem types it. -/
theorem infer_establishes (classes : hierarchy.Sound) :
    (expr : Expr) → SoundAt hierarchy result expr
  | .name identifier => soundAt_name identifier
  | .integer _ _ | .boolean _ _ | .string _ _ | .none _ => soundAt_literal rfl
  | .list info elements => soundAt_list info (inferAll_establishes classes elements)
  | .binary info left operator right =>
    soundAt_binary info operator (infer_establishes classes left) (infer_establishes classes right)
  | .unary info operator operand =>
    soundAt_unary info operator (infer_establishes classes operand)
  | .conditional info condition thenExpr elseExpr =>
    soundAt_conditional info (infer_establishes classes condition)
      (infer_establishes classes thenExpr) (infer_establishes classes elseExpr)
  | .member info object field =>
    soundAt_member classes info field (infer_establishes classes object)
  | .index info container position =>
    soundAt_index info (infer_establishes classes container) (infer_establishes classes position)
  | .call info function args =>
    soundAt_call classes info function (inferAll_establishes classes args)
  | .methodCall info access object method args =>
    soundAt_methodCall classes info access method (infer_establishes classes object)
      (inferAll_establishes classes args)

/-- Checking expressions without finding a problem types them. -/
theorem inferAll_establishes (classes : hierarchy.Sound) :
    (exprs : List Expr) → SoundAtAll hierarchy result exprs
  | [] => soundAtAll_nil
  | expr :: rest =>
    soundAtAll_cons (infer_establishes classes expr) (inferAll_establishes classes rest)

end

end Check
end ChocoLang
