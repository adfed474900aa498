import ImageFallback.Proofs.Tree.Heads
import ImageFallback.Proofs.Tree.Identity
import ImageFallback.Swap.Pass

/-!
# The argument of the loader

Whether a call is one of the loader, and whether a comment keeps its argument, is told from the
heads of its callee and its arguments. `Config.onArgument change` puts the changed argument into the
place of the argument of such a call, unless a comment keeps it.

An argument is checked before it is changed. The check finds the first template among its leaves,
which are reached through parentheses and branches, that has a wrong number of texts, and this is the
fault of the call (`Config.fault?`).
-/

namespace ImageFallback

open Node

namespace Config

variable {config : Config} {remarks : List Remark} {callee argument : Node}
variable {arguments : List Node}

theorem loaderArgument?_eq_some (h : config.loaderArgument? callee arguments = some argument) :
    arguments = [argument] := by
  unfold loaderArgument? at h
  split at h
  · split at h
    · simpa using h
    · cases h
  · cases h

theorem callee_of_loaderArgument? (h : config.loaderArgument? callee arguments = some argument) :
    ∃ span, callee = .name span config.loader := by
  unfold loaderArgument? at h
  split at h
  · split at h
    · rename_i loader
      exact ⟨_, by rw [loader.1]⟩
    · cases h
  · cases h

theorem idsAll_of_loaderArgument? (h : config.loaderArgument? callee arguments = some argument) :
    idsAll arguments = argument.ids := by
  simp [loaderArgument?_eq_some h, idsAll]

theorem loaderArgument?_eq (config : Config) (callee : Node) (arguments : List Node) :
    config.loaderArgument? callee arguments =
      match arguments with
      | [argument] =>
        if callee.name? = some config.loader ∧ argument.isSpread = false then some argument
        else none
      | _ => none := by
  rcases arguments with _ | ⟨argument, _ | ⟨second, rest⟩⟩ <;> cases callee <;>
    simp [loaderArgument?, name?]

/-- Calls whose parts have the same heads are calls of the loader together. -/
theorem loaderArgument?_sameHead {callee' : Node} {arguments' : List Node}
    (hc : SameHead callee callee') (ha : List.Forall₂ SameHead arguments arguments') :
    (config.loaderArgument? callee arguments = none ∧
        config.loaderArgument? callee' arguments' = none) ∨
      ∃ argument argument', config.loaderArgument? callee arguments = some argument ∧
        config.loaderArgument? callee' arguments' = some argument' ∧
          SameHead argument argument' := by
  rw [loaderArgument?_eq, loaderArgument?_eq, hc.name]
  rcases ha with _ | ⟨h, _ | ⟨h', rest⟩⟩
  · exact Or.inl ⟨rfl, rfl⟩
  · simp only [h.spread]
    split
    · exact Or.inr ⟨_, _, rfl, rfl, h⟩
    · exact Or.inl ⟨rfl, rfl⟩
  · exact Or.inl ⟨rfl, rfl⟩

/-- So are calls whose arguments have more in common than their heads. -/
theorem loaderArgument?_related {R : Node → Node → Prop} (head : ∀ a b, R a b → SameHead a b)
    {callee' : Node} {arguments' : List Node} (hc : SameHead callee callee')
    (ha : List.Forall₂ R arguments arguments') :
    (config.loaderArgument? callee arguments = none ∧
        config.loaderArgument? callee' arguments' = none) ∨
      ∃ argument argument', config.loaderArgument? callee arguments = some argument ∧
        config.loaderArgument? callee' arguments' = some argument' ∧ R argument argument' := by
  refine (loaderArgument?_sameHead hc (ha.imp head)).imp_right ?_
  rintro ⟨argument, argument', found, found', -⟩
  rw [loaderArgument?_eq_some found, loaderArgument?_eq_some found'] at ha
  exact ⟨argument, argument', found, found', (List.forall₂_cons.1 ha).1⟩

theorem isIgnored_sameHead {argument' : Node} (h : SameHead argument argument') (span : Span) :
    config.isIgnored remarks argument' span = config.isIgnored remarks argument span := by
  simp [isIgnored, h.span]

theorem loaderArgument?_mapIds (config : Config) (f : NodeId → NodeId) (callee : Node)
    (arguments : List Node) :
    config.loaderArgument? (callee.mapIds f) (mapIdsAll f arguments) =
      (config.loaderArgument? callee arguments).map (mapIds f) := by
  rcases arguments with _ | ⟨argument, _ | ⟨second, rest⟩⟩ <;> cases callee <;>
    simp [loaderArgument?, mapIdsAll, mapIds]

theorem isIgnored_mapIds (config : Config) (remarks : List Remark) (f : NodeId → NodeId)
    (argument : Node) (span : Span) :
    config.isIgnored remarks (argument.mapIds f) span =
      config.isIgnored remarks argument span := by
  simp [isIgnored]

/-! ## Changing the argument of the loader -/

/-- The arguments of a call once the argument of the loader is changed. -/
def onArgument (config : Config) (remarks : List Remark) (change : Node → Node) (span : Span)
    (callee : Node) (arguments : List Node) : List Node :=
  match config.loaderArgument? callee arguments with
  | some argument =>
    if config.isIgnored remarks argument span then arguments else [change argument]
  | none => arguments

variable {change : Node → Node} {span : Span}

/-- What holds of the arguments, and of the changed argument if there is no other, holds
afterwards. -/
theorem onArgument_induction {motive : List Node → Prop} (kept : motive arguments)
    (changed : ∀ argument, arguments = [argument] → motive [change argument]) :
    motive (config.onArgument remarks change span callee arguments) := by
  unfold onArgument
  split
  · rename_i argument h
    split
    · exact kept
    · exact changed argument (loaderArgument?_eq_some h)
  · exact kept

/-- Arguments with the same heads are changed together or kept together. -/
theorem onArgument_sameHead (config : Config) (remarks : List Remark) (change change' : Node → Node)
    (span : Span) (callee : Node) {arguments arguments' : List Node}
    (heads : List.Forall₂ SameHead arguments arguments') :
    (config.onArgument remarks change span callee arguments = arguments ∧
        config.onArgument remarks change' span callee arguments' = arguments') ∨
      ∃ argument argument', arguments = [argument] ∧ arguments' = [argument'] ∧
        config.onArgument remarks change span callee arguments = [change argument] ∧
        config.onArgument remarks change' span callee arguments' = [change' argument'] := by
  unfold onArgument
  rcases @loaderArgument?_sameHead config _ _ _ _ (SameHead.refl callee) heads with
    ⟨none, none'⟩ | ⟨argument, argument', found, found', same⟩
  · rw [none, none']
    exact Or.inl ⟨rfl, rfl⟩
  · rw [found, found']
    simp only [isIgnored_sameHead same]
    split
    · exact Or.inl ⟨rfl, rfl⟩
    · exact Or.inr ⟨argument, argument', loaderArgument?_eq_some found,
        loaderArgument?_eq_some found', rfl, rfl⟩

theorem onArgument_mapIds (f : NodeId → NodeId)
    (natural : ∀ node, change (node.mapIds f) = (change node).mapIds f) :
    config.onArgument remarks change span (callee.mapIds f) (mapIdsAll f arguments) =
      mapIdsAll f (config.onArgument remarks change span callee arguments) := by
  rw [onArgument, onArgument, loaderArgument?_mapIds]
  cases h : config.loaderArgument? callee arguments with
  | none => rfl
  | some argument =>
      simp only [Option.map_some, isIgnored_mapIds]
      split
      · rfl
      · simp [mapIdsAll, natural]

end Config

/-! ## Malformed arguments -/

namespace Node

/-- The nodes other than conditionals that are reached through parentheses and branches. -/
def leaves : Node → List Node
  | conditional _ _ _ yes no => leaves yes ++ leaves no
  | paren _ inner => leaves inner
  | node => [node]

/-- What is wrong with a template that has another number of texts than one more than it has
expressions. -/
def misshapen? : Node → Option SwapError
  | template _ _ quasis parts =>
    if quasis.length = parts.length + 1 then none
    else some (.malformedTemplate quasis.length parts.length)
  | _ => none

theorem misshapen?_mapIds (f : NodeId → NodeId) (node : Node) :
    (node.mapIds f).misshapen? = node.misshapen? := by
  cases node <;> simp [mapIds, misshapen?, length_mapIdsAll]

theorem leaves_mapIds (f : NodeId → NodeId) (node : Node) :
    (node.mapIds f).leaves = node.leaves.map (mapIds f) := by
  induction node using leaves.induct with
  | case1 id span test yes no ihYes ihNo => simp [mapIds, leaves, ihYes, ihNo]
  | case2 span inner ih => simp [mapIds, leaves, ih]
  | case3 node notConditional notParen =>
      cases node with
      | conditional => exact (notConditional _ _ _ _ _ rfl).elim
      | paren => exact (notParen _ _ rfl).elim
      | _ => rfl

theorem findSome?_leaves_mapIds (f : NodeId → NodeId) (node : Node) :
    (node.mapIds f).leaves.findSome? misshapen? = node.leaves.findSome? misshapen? := by
  have leaf : misshapen? ∘ mapIds f = misshapen? := funext (misshapen?_mapIds f)
  rw [leaves_mapIds, List.findSome?_map, leaf]

end Node

/-- The check of an argument finds the first leaf with a fault. -/
theorem Swapper.wellFormed_eq (node : Node) :
    wellFormed node =
      match node.leaves.findSome? misshapen? with
      | some e => .error e
      | none => .ok () := by
  induction node using leaves.induct with
  | case1 id span test yes no ihYes ihNo =>
      rw [wellFormed, ihYes, ihNo, leaves, List.findSome?_append]
      cases yes.leaves.findSome? misshapen? <;> rfl
  | case2 span inner ih => rw [wellFormed, ih, leaves]
  | case3 node notConditional notParen =>
      cases node with
      | conditional => exact (notConditional _ _ _ _ _ rfl).elim
      | paren => exact (notParen _ _ rfl).elim
      | template id span quasis parts =>
          by_cases formed : quasis.length = parts.length + 1
          · simp [wellFormed, leaves, misshapen?, formed]
          · simp [wellFormed, leaves, misshapen?, formed]
      | _ => rfl

theorem Swapper.wellFormed_mapIds (f : NodeId → NodeId) (node : Node) :
    wellFormed (node.mapIds f) = wellFormed node := by
  rw [wellFormed_eq, wellFormed_eq, findSome?_leaves_mapIds]

namespace Config

/-- The fault of a call of the loader whose argument no comment keeps and cannot be changed. -/
def fault? (config : Config) (remarks : List Remark) : Node → Option SwapError
  | .call span callee arguments _ =>
    match config.loaderArgument? callee arguments with
    | some argument =>
      if config.isIgnored remarks argument span then none
      else argument.leaves.findSome? misshapen?
    | none => none
  | _ => none

theorem fault?_mapIds (config : Config) (remarks : List Remark) (f : NodeId → NodeId)
    (node : Node) : config.fault? remarks (node.mapIds f) = config.fault? remarks node := by
  cases node with
  | call span callee arguments optional =>
      simp only [mapIds, fault?, loaderArgument?_mapIds]
      cases config.loaderArgument? callee arguments with
      | none => rfl
      | some argument =>
          simp only [Option.map_some, isIgnored_mapIds, findSome?_leaves_mapIds]
  | _ => rfl

end Config

end ImageFallback
