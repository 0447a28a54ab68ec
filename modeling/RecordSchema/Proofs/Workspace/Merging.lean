import RecordSchema.Proofs.Workspace.Planting
import RecordSchema.Proofs.Workspace.Renaming

/-!
# Merging shared collections

Members that are merged into a collection are copied, one after the other.  A copy is written as the
original, nothing that was there before is nested in it, and no copy is nested in another.  So a
collection that others have been merged into can be renamed as each of the two could before.
-/

namespace RecordSchema.Workspace

variable {workspace after : Workspace} {collection number : Nat}
  {members others held : Fields Nat} {documents later : Fields Value}

/-! ## Copies -/

private theorem outcome_copy {property : Property} (read : workspace.tree number = .ok property) :
    ∃ block root, outcome (copy number) workspace =
        (.ok root, { workspace with nodes := workspace.nodes ++ block }) ∧
      Inward workspace.nodes block ∧ Planted property workspace.nodes block root := by
  have got : outcome (get : Action Workspace) workspace = (.ok workspace, workspace) := rfl
  rw [copy, outcome_bind_of_ok got, read]
  exact grows_plant property workspace

/-- Trees that can be read stay the same when further nodes come. -/
theorem tree_of_append {property : Property} {block : Array (Node Nat)}
    (read : workspace.tree number = .ok property)
    (appended : after.nodes = workspace.nodes ++ block) : after.tree number = .ok property := by
  rw [tree, appended]
  refine treeWithin_of_agree ?_ read fun inner node _ present => ?_
  · rw [Array.size_append]
    omega
  · exact extends_append workspace.nodes block inner node present

private theorem Renders.of_append {block : Array (Node Nat)}
    (renders : Renders workspace members documents)
    (appended : after.nodes = workspace.nodes ++ block) : Renders after members documents := by
  refine renders.of_same fun number isMember => ?_
  obtain ⟨property, isTree⟩ := renders.tree isMember
  rw [entryAt, entryAt, isTree, tree_of_append isTree appended]

/-- Properties behind the first ones, with all that is nested in them, none of which is nested in
another. -/
structure Fresh (count : Nat) (nodes : Array (Node Nat)) (roots : List Nat) : Prop where
  behind : ∀ root ∈ roots, count ≤ root
  below : ∀ root ∈ roots, ∀ inner, Below nodes root inner → count ≤ inner
  apart : Apart nodes roots roots

theorem Fresh.cons {nodes : Array (Node Nat)} {count more root : Nat} {roots : List Nat}
    (fresh : Fresh more nodes roots) (behind : count ≤ root) (before : root < more)
    (between : ∀ inner, Below nodes root inner → count ≤ inner ∧ inner < root) :
    Fresh count nodes (root :: roots) where
  behind := by
    intro other isOther
    rcases List.mem_cons.mp isOther with rfl | isLater
    · exact behind
    · have further := fresh.behind other isLater
      omega
  below := by
    intro other isOther inner below
    rcases List.mem_cons.mp isOther with rfl | isLater
    · exact (between inner below).1
    · have further := fresh.below other isLater inner below
      omega
  apart := by
    intro outer isOuter inner isInner below
    rcases List.mem_cons.mp isOuter with rfl | outerLater
    · have nearer := between inner below
      rcases List.mem_cons.mp isInner with rfl | innerLater
      · omega
      · have further := fresh.behind inner innerLater
        omega
    · rcases List.mem_cons.mp isInner with rfl | innerLater
      · have further := fresh.below outer outerLater inner below
        omega
      · exact fresh.apart outer outerLater inner innerLater below

/-! ## Copying members -/

/-- Copies are put on the members of a collection.  They are written as the originals are. -/
theorem outcome_copyMembers (renders : Renders workspace members documents)
    (present : workspace.collections[collection]? = some held.named) :
    ∃ after block copies,
      outcome (copyMembers collection members.named) workspace = (.ok (), after) ∧
        after.nodes = workspace.nodes ++ block ∧
        after.collections[collection]? = some (held.putAll copies).named ∧
        Renders after copies documents ∧
        Fresh workspace.nodes.size after.nodes (numbers copies) := by
  induction members generalizing workspace held documents with
  | nil =>
      cases documents with
      | nil =>
          refine ⟨workspace, #[], [], rfl, Array.append_empty.symm, present, rfl, ?_⟩
          exact ⟨nofun, nofun, nofun⟩
      | cons entry rest =>
          cases renders
  | cons member rest inductionHypothesis =>
      obtain ⟨name, number⟩ := member
      obtain ⟨document, later, rfl, written, remaining⟩ := renders_cons.mp renders
      obtain ⟨property, isTree, rfl⟩ := Outcome.map_eq_ok_iff.mp written
      obtain ⟨block, root, copied, inward, planted⟩ := outcome_copy isTree
      let between : Workspace := { workspace with nodes := workspace.nodes ++ block }
      have still : Renders (between.withMembers collection (held.put name root).named) rest later :=
        remaining.of_append rfl
      have presentBetween : between.collections[collection]? = some held.named := present
      obtain ⟨after, further, copies, ran, grown, presentAfter, rendersAfter, fresh⟩ :=
        inductionHypothesis still (members_withMembers presentBetween _)
      have grownAll : after.nodes = workspace.nodes ++ block ++ further := grown
      have rootTree : after.tree root = .ok property := by
        rw [tree, grownAll]
        refine planted.shows further _ ?_
        rw [Array.size_append, Array.size_append]
        omega
      refine ⟨after, block ++ further, (name, root) :: copies, ?_, ?_, presentAfter, ?_, ?_⟩
      · have putNamed : Fields.put (.text name) root held.named = (held.put name root).named :=
          Fields.put_rekey Fields.named_keeps held name root
        have found := outcome_members presentBetween
        rw [Fields.named_cons, copyMembers, outcome_bind_of_ok copied, outcome_bind_of_ok found,
          putNamed]
        exact ran
      · rw [grownAll, Array.append_assoc]
      · refine renders_cons.mpr ⟨_, later, rfl, ?_, rendersAfter⟩
        rw [entryAt, rootTree]
        rfl
      · refine fresh.cons planted.within.1 ?_ fun inner below => ?_
        · have within := planted.within.2
          rw [← Array.size_append] at within
          exact within
        · rw [grownAll] at below
          exact inward.below planted.within below

/-! ## Merging -/

private theorem mem_numbers_putAll {copies : Fields Nat}
    (isMember : number ∈ numbers (members.putAll copies)) :
    number ∈ numbers members ∨ number ∈ numbers copies := by
  obtain ⟨⟨name, _⟩, isField, rfl⟩ := List.mem_map.mp isMember
  rcases Fields.mem_putAll isField with ⟨key, isCopy⟩ | isOld
  · exact .inr (List.mem_map.mpr ⟨_, isCopy, rfl⟩)
  · exact .inl (List.mem_map.mpr ⟨_, isOld, rfl⟩)

/-- Copies that are put on members are as far apart from these as from each other: old members reach
what was there before, and copies reach what is new. -/
theorem Holding.apart_putAll {nodes : Array (Node Nat)} {copies : Fields Nat}
    (holding : Holding workspace collection members documents)
    (extended : Extends workspace.nodes nodes)
    (fresh : Fresh workspace.nodes.size nodes (numbers copies)) :
    Apart nodes (numbers (members.putAll copies)) (numbers (members.putAll copies)) := by
  intro outer isOuter inner isInner below
  rcases mem_numbers_putAll isOuter with outerOld | outerCopy
  · obtain ⟨property, isTree⟩ := holding.renders.tree outerOld
    obtain ⟨inside, belowBefore⟩ := below_of_extends extended isTree below
    rcases mem_numbers_putAll isInner with innerOld | innerCopy
    · exact holding.apart outer outerOld inner innerOld belowBefore
    · have behind := fresh.behind inner innerCopy
      omega
  · rcases mem_numbers_putAll isInner with innerOld | innerCopy
    · have inside := holding.inside innerOld
      have behind := fresh.below outer outerCopy inner below
      omega
    · exact fresh.apart outer outerCopy inner innerCopy below

/-- Merging puts the written forms of one collection on those of the other. -/
theorem Holding.mergeCollection {other : Nat}
    (holding : Holding workspace collection members documents)
    (otherHolding : Holding workspace other others later) :
    ∃ after copies,
      outcome (mergeCollection collection (.handle .builder other)) workspace = (.ok (), after) ∧
        Holding after collection (members.putAll copies) (documents.putAll later) := by
  obtain ⟨after, block, copies, ran, grown, present, copiesRender, fresh⟩ :=
    outcome_copyMembers otherHolding.renders holding.present
  refine ⟨after, copies, ?_, present, holding.distinct.putAll copies,
    (holding.renders.of_append grown).putAll copiesRender, ?_⟩
  · rw [Workspace.mergeCollection, outcome_bind_of_ok (outcome_members otherHolding.present)]
    exact ran
  · refine holding.apart_putAll ?_ fresh
    rw [grown]
    exact extends_append workspace.nodes block

/-! ## Renaming and merging together -/

def writtenAfter (action : Action Unit) (collection : Nat) (workspace : Workspace) :
    Except Error Value :=
  (outcome (do action; collectionDocument collection) workspace).1

/-- Two collections of properties under texts.  No property stands in them in two places, one inside
the other: no member of either is nested in a member, and nothing that is nested in one contains
itself. -/
structure Unshared (workspace : Workspace) (first second : Nat) (members others : Fields Nat) :
    Prop where
  differ : first ≠ second
  firstPresent : workspace.collections[first]? = some members.named
  secondPresent : workspace.collections[second]? = some others.named
  firstDistinct : members.Distinct
  secondDistinct : others.Distinct
  grounded : ∀ number ∈ numbers (members ++ others), Grounded workspace.nodes number
  apart : Apart workspace.nodes (numbers (members ++ others)) (numbers (members ++ others))

variable {first second : Nat} {action : Action Unit}

private theorem writtenAfter_then (ran : outcome action workspace = (.ok (), after))
    (next : Action Unit) (collection : Nat) :
    writtenAfter (do action; next) collection workspace = writtenAfter next collection after := by
  rw [writtenAfter, writtenAfter, bind_assoc, outcome_bind_of_ok ran]

private theorem writtenAfter_of_holding (ran : outcome action workspace = (.ok (), after))
    (holding : Holding after collection members documents) :
    writtenAfter action collection workspace = .ok (.map documents) := by
  rw [writtenAfter, outcome_bind_of_ok ran, holding.outcome_collectionDocument]

private theorem outcome_mergeCollection_of_renamed
    (holding : Holding workspace first members documents)
    (otherHolding : Holding workspace second others later) (differ : first ≠ second)
    (clear : Apart workspace.nodes (numbers members) (numbers others))
    (otherClear : Apart workspace.nodes (numbers others) (numbers members)) (start : String) :
    ∃ after copies,
      outcome (do
          prefixMembers first (.text start)
          prefixMembers second (.text start)
          mergeCollection first (.handle .builder second)) workspace = (.ok (), after) ∧
        Holding after first ((members.rekey (start ++ ·)).putAll copies)
          ((documents.putAll later).rekey (start ++ ·)) := by
  obtain ⟨renamed, ran, held, relabels, elsewhere⟩ := holding.prefixMembers start
  have otherHeld : Holding renamed second others later :=
    otherHolding.of_relabels relabels otherClear
      ((elsewhere second differ.symm).trans otherHolding.present)
  obtain ⟨both, ranOther, bothHeld, otherRelabels, otherElsewhere⟩ :=
    otherHeld.prefixMembers start
  have stillClear : Apart renamed.nodes (numbers (members.rekey (start ++ ·)))
      (numbers others) := by
    rw [numbers_rekey, relabels.apart_iff]
    exact clear
  have firstHeld := held.of_relabels otherRelabels stillClear
    ((otherElsewhere first differ).trans held.present)
  obtain ⟨merged, copies, ranMerge, mergedHeld⟩ := firstHeld.mergeCollection bothHeld
  rw [Fields.putAll_rekey (Fields.append_keeps start)] at mergedHeld
  refine ⟨merged, copies, ?_, mergedHeld⟩
  rw [outcome_bind_of_ok ran, outcome_bind_of_ok ranOther, ranMerge]

namespace Unshared

private theorem exists_holding (unshared : Unshared workspace first second members others) :
    ∃ documents later, Holding workspace first members documents ∧
      Holding workspace second others later ∧
      Apart workspace.nodes (numbers members) (numbers others) ∧
      Apart workspace.nodes (numbers others) (numbers members) := by
  have split : numbers (members ++ others) = numbers members ++ numbers others :=
    List.map_append
  have grounded := unshared.grounded
  have apart := unshared.apart
  rw [split] at grounded apart
  obtain ⟨documents, renders⟩ : ∃ documents, Renders workspace members documents :=
    exists_renders fun number isMember =>
      (grounded number (List.mem_append_left _ isMember)).exists_tree
  obtain ⟨later, laterRenders⟩ : ∃ documents, Renders workspace others documents :=
    exists_renders fun number isMember =>
      (grounded number (List.mem_append_right _ isMember)).exists_tree
  refine ⟨documents, later,
    ⟨unshared.firstPresent, unshared.firstDistinct, renders, ?_⟩,
    ⟨unshared.secondPresent, unshared.secondDistinct, laterRenders, ?_⟩, ?_, ?_⟩
  · exact apart.mono (List.subset_append_left _ _) (List.subset_append_left _ _)
  · exact apart.mono (List.subset_append_right _ _) (List.subset_append_right _ _)
  · exact apart.mono (List.subset_append_left _ _) (List.subset_append_right _ _)
  · exact apart.mono (List.subset_append_right _ _) (List.subset_append_left _ _)

/-- Renaming keeps members, order and written forms, twice is once, and merging lays the written
forms of one collection over those of the other, before renaming as well as after that. -/
theorem renaming_and_merging_compose
    (unshared : Unshared workspace first second members others) :
    ∃ documents later : Fields Value,
      documents.names = members.names ∧ later.names = others.names ∧
      writtenAfter (pure ()) first workspace = .ok (.map documents) ∧
      writtenAfter (pure ()) second workspace = .ok (.map later) ∧
      ∀ start further : String,
        (outcome (do prefixMembers first (.text start); Workspace.members first) workspace).1 =
          .ok (Fields.rekey (start ++ ·) members).named ∧
        writtenAfter (prefixMembers first (.text start)) first workspace =
          .ok (.map (documents.rekey (start ++ ·))) ∧
        writtenAfter (do prefixMembers first (.text start); prefixMembers first (.text further))
            first workspace =
          writtenAfter (prefixMembers first (.text (further ++ start))) first workspace ∧
        writtenAfter (mergeCollection first (.handle .builder second)) first workspace =
          .ok (.map (documents.overlaid later)) ∧
        writtenAfter (do
            mergeCollection first (.handle .builder second)
            prefixMembers first (.text start)) first workspace =
          .ok (.map ((documents.overlaid later).rekey (start ++ ·))) ∧
        writtenAfter (do
            prefixMembers first (.text start)
            prefixMembers second (.text start)
            mergeCollection first (.handle .builder second)) first workspace =
          .ok (.map ((documents.overlaid later).rekey (start ++ ·))) := by
  obtain ⟨documents, later, holding, otherHolding, clear, otherClear⟩ := unshared.exists_holding
  have laid : documents.putAll later = documents.overlaid later :=
    Fields.putAll_eq_overlaid (holding.renders.distinct holding.distinct)
      (otherHolding.renders.distinct otherHolding.distinct)
  refine ⟨documents, later, holding.renders.names_eq.symm, otherHolding.renders.names_eq.symm,
    writtenAfter_of_holding rfl holding, writtenAfter_of_holding rfl otherHolding,
    fun start further => ?_⟩
  obtain ⟨renamed, ran, held, relabels, elsewhere⟩ := holding.prefixMembers start
  obtain ⟨merged, copies, ranMerge, heldMerged⟩ := holding.mergeCollection otherHolding
  rw [laid] at heldMerged
  refine ⟨?_, writtenAfter_of_holding ran held, ?_, writtenAfter_of_holding ranMerge heldMerged,
    ?_, ?_⟩
  · rw [outcome_bind_of_ok ran, outcome_members held.present]
  · obtain ⟨twice, ranTwice, heldTwice, _⟩ := held.prefixMembers further
    obtain ⟨once, ranOnce, heldOnce, _⟩ := holding.prefixMembers (further ++ start)
    have joined : (documents.rekey (start ++ ·)).rekey (further ++ ·) =
        documents.rekey (further ++ start ++ ·) := by
      rw [Fields.rekey_rekey]
      congr 1
      funext name
      exact String.append_assoc.symm
    rw [joined] at heldTwice
    rw [writtenAfter_then ran, writtenAfter_of_holding ranTwice heldTwice,
      writtenAfter_of_holding ranOnce heldOnce]
  · obtain ⟨last, ranLast, heldLast, _⟩ := heldMerged.prefixMembers start
    rw [writtenAfter_then ranMerge]
    exact writtenAfter_of_holding ranLast heldLast
  · obtain ⟨last, _, ranLast, heldLast⟩ := outcome_mergeCollection_of_renamed holding otherHolding
      unshared.differ clear otherClear start
    rw [laid] at heldLast
    exact writtenAfter_of_holding ranLast heldLast

/-- An address and a name in one collection, another name and an age in the other. -/
def shelf : Workspace where
  nodes := #[
    { facets := (Property.plain "string" "street").facets },
    { facets := (Property.plain "object" "address").facets,
      children := [(.text "street", .property 0)] },
    { facets := (Property.plain "string" "name").facets },
    { facets := (Property.plain "integer" "name").facets },
    { facets := (Property.plain "integer" "age").facets }]
  collections := #[
    [(.text "address", 1), (.text "name", 2)],
    [(.text "name", 3), (.text "age", 4)]]

/-- The written form of a property of a type and no more. -/
def bareEntry (type : String) : Fields Value :=
  [("type", .text type), ("rules", .list []), ("required", .bool false)]

def addressEntry : Fields Value :=
  bareEntry "object" ++
    [("properties", .map [("street", .map (("name", .text "street") :: bareEntry "string"))])]

private theorem contains_shelf {outer inner : Nat} (contains : Contains shelf.nodes outer inner) :
    outer = 1 ∧ inner = 0 := by
  obtain ⟨node, present, refers⟩ := contains
  match outer, present with
  | 1, rfl =>
      rcases refers with ⟨name, member⟩ | isItems
      · cases List.mem_singleton.mp member
        exact ⟨rfl, rfl⟩
      · cases isItems
  | 0, rfl | 2, rfl | 3, rfl | 4, rfl =>
      rcases refers with ⟨name, member⟩ | isItems
      · cases member
      · cases isItems
  | _ + 5, present =>
      cases present

private theorem below_shelf {outer inner : Nat} (below : Below shelf.nodes outer inner) :
    outer = 1 ∧ inner = 0 := by
  induction below with
  | single contains =>
      exact contains_shelf contains
  | tail _ contains inductionHypothesis =>
      exact ⟨inductionHypothesis.1, (contains_shelf contains).2⟩

private theorem unshared_shelf :
    Unshared shelf 0 1 [("address", 1), ("name", 2)] [("name", 3), ("age", 4)] where
  differ := by decide
  firstPresent := rfl
  secondPresent := rfl
  firstDistinct := by simp [Fields.Distinct, Fields.names]
  secondDistinct := by simp [Fields.Distinct, Fields.names]
  grounded := by
    intro number isMember inner reaches
    have size : shelf.nodes.size = 5 := rfl
    have inside : inner < 5 := by
      rcases Relation.reflTransGen_iff_eq_or_transGen.mp reaches with rfl | below
      · simp [numbers] at isMember
        omega
      · rw [(below_shelf below).2]
        decide
    refine ⟨size ▸ inside, fun below => ?_⟩
    obtain ⟨isOne, isZero⟩ := below_shelf below
    omega
  apart := by
    intro outer _ inner isInner below
    rw [(below_shelf below).2] at isInner
    simp [numbers] at isInner

/-- The later name takes the place of the earlier one, whenever the names are changed. -/
theorem renaming_and_merging_compose_shelf :
    Unshared shelf 0 1 [("address", 1), ("name", 2)] [("name", 3), ("age", 4)] ∧
      writtenAfter (do
          mergeCollection 0 (.handle .builder 1)
          prefixMembers 0 (.text "old_")) 0 shelf =
        .ok (.map [("old_address", .map addressEntry), ("old_name", .map (bareEntry "integer")),
          ("old_age", .map (bareEntry "integer"))]) ∧
      writtenAfter (do
          prefixMembers 0 (.text "old_")
          prefixMembers 1 (.text "old_")
          mergeCollection 0 (.handle .builder 1)) 0 shelf =
        .ok (.map [("old_address", .map addressEntry), ("old_name", .map (bareEntry "integer")),
          ("old_age", .map (bareEntry "integer"))]) := by
  obtain ⟨documents, later, _, _, shown, laterShown, composed⟩ :=
    renaming_and_merging_compose unshared_shelf
  have isFirst : writtenAfter (pure ()) 0 shelf =
      .ok (.map [("address", .map addressEntry), ("name", .map (bareEntry "string"))]) := rfl
  have isSecond : writtenAfter (pure ()) 1 shelf =
      .ok (.map [("name", .map (bareEntry "integer")), ("age", .map (bareEntry "integer"))]) := rfl
  cases isFirst.symm.trans shown
  cases isSecond.symm.trans laterShown
  obtain ⟨_, _, _, _, mergedFirst, renamedFirst⟩ := composed "old_" ""
  exact ⟨unshared_shelf, mergedFirst, renamedFirst⟩

end Unshared

end RecordSchema.Workspace
