import IssueQuery.Issue.RichText
import IssueQuery.Proofs.Slices
import Mathlib.Algebra.GroupWithZero.Nat
import Mathlib.Data.List.Lex
import Mathlib.Order.WithBot

namespace IssueQuery.RichText

/-! Walks through documents.

A walk through a document enters and leaves each of its nodes.  In which order is said here by
the addresses of the nodes alone, and just one walk is depth first.  The plain text of a
document is what that walk comes past.
-/

/-- The node at an address, which gives the places of its ancestors and then its own place
among their siblings. -/
def nodeAt? (node : RichText) : List Nat → Option RichText
  | [] => some node
  | place :: rest => node.content[place]?.bind fun child => child.nodeAt? rest

theorem nodeAt?_append (node : RichText) (first second : List Nat) :
    node.nodeAt? (first ++ second) =
      (node.nodeAt? first).bind fun inner => inner.nodeAt? second := by
  induction first generalizing node with
  | nil => rfl
  | cons place rest ih =>
      rw [List.cons_append, nodeAt?, nodeAt?, Option.bind_assoc]
      congr 1
      funext child
      exact ih child

inductive Visit where
  | enter (address : List Nat)
  | leave (address : List Nat)
deriving DecidableEq, Repr

namespace Visit

def address : Visit → List Nat
  | enter address => address
  | leave address => address

/-- What comes before what in a walk that is depth first: entering a node before everything in
its content, that before leaving the node, and everything in a node before everything in a
later one of its siblings. -/
inductive Before : Visit → Visit → Prop
  | own (address : List Nat) : Before (enter address) (leave address)
  | down {outer rest : List Nat} {place : Nat} {visit : Visit}
      (inside : visit.address = outer ++ place :: rest) : Before (enter outer) visit
  | up {outer rest : List Nat} {place : Nat} {visit : Visit}
      (inside : visit.address = outer ++ place :: rest) : Before visit (leave outer)
  | apart {outer rest otherRest : List Nat} {place other : Nat} {visit later : Visit}
      (inside : visit.address = outer ++ place :: rest)
      (laterInside : later.address = outer ++ other :: otherRest) (smaller : place < other) :
      Before visit later

/-- The address with a last place behind every other if the node is left. -/
def rank : Visit → List (WithTop Nat)
  | enter address => address.map WithTop.some
  | leave address => address.map WithTop.some ++ [⊤]

theorem exists_rank_eq {visit : Visit} {outer rest : List Nat} {place : Nat}
    (inside : visit.address = outer ++ place :: rest) :
    ∃ behind, visit.rank = outer.map WithTop.some ++ WithTop.some place :: behind := by
  cases visit with
  | enter address =>
      obtain rfl : address = outer ++ place :: rest := inside
      exact ⟨rest.map WithTop.some, List.map_append⟩
  | leave address =>
      obtain rfl : address = outer ++ place :: rest := inside
      exact ⟨rest.map WithTop.some ++ [⊤], by simp [rank]⟩

theorem Before.rank_lt {visit later : Visit} (before : Before visit later) :
    List.Lex (· < ·) visit.rank later.rank := by
  cases before with
  | own address =>
      have shorter : List.Lex (· < ·) [] [(⊤ : WithTop Nat)] := .nil
      simpa [rank] using shorter.append_left _ (address.map WithTop.some)
  | @down outer _ place _ inside =>
      obtain ⟨behind, rank_eq⟩ := exists_rank_eq inside
      have shorter : List.Lex (· < ·) [] (WithTop.some place :: behind) := .nil
      have common := shorter.append_left _ (outer.map WithTop.some)
      rw [List.append_nil] at common
      rw [rank_eq]
      exact common
  | up inside =>
      obtain ⟨behind, rank_eq⟩ := exists_rank_eq inside
      rw [rank_eq]
      exact List.Lex.append_left _ (.rel (WithTop.coe_lt_top _)) _
  | apart inside laterInside smaller =>
      obtain ⟨behind, rank_eq⟩ := exists_rank_eq inside
      obtain ⟨laterBehind, laterRank_eq⟩ := exists_rank_eq laterInside
      rw [rank_eq, laterRank_eq]
      exact List.Lex.append_left _ (.rel (WithTop.coe_lt_coe.mpr smaller)) _

theorem Before.asymm {visit later : Visit} (before : Before visit later) :
    ¬ Before later visit := by
  intro after
  exact Std.Asymm.asymm _ _ before.rank_lt after.rank_lt

theorem Before.ne {visit later : Visit} (before : Before visit later) : visit ≠ later := by
  intro same
  subst later
  exact before.asymm before

end Visit

/-- The visits of a walk through a document, depth first: every node is entered once and left
once, and no other. -/
structure DepthFirst (node : RichText) (visits : List Visit) : Prop where
  entered : ∀ address, .enter address ∈ visits ↔ (node.nodeAt? address).isSome
  left : ∀ address, .leave address ∈ visits ↔ (node.nodeAt? address).isSome
  once : visits.Nodup
  inOrder : visits.Pairwise Visit.Before

theorem DepthFirst.unique {node : RichText} {visits others : List Visit}
    (depthFirst : node.DepthFirst visits) (alsoDepthFirst : node.DepthFirst others) :
    others = visits := by
  -- Both arrange the same visits, and of two visits just one may come first.
  have permuted : others.Perm visits := by
    refine (List.perm_ext_iff_of_nodup alsoDepthFirst.once depthFirst.once).mpr fun visit => ?_
    cases visit with
    | enter address => rw [alsoDepthFirst.entered, depthFirst.entered]
    | leave address => rw [alsoDepthFirst.left, depthFirst.left]
  refine permuted.eq_of_pairwise ?_ alsoDepthFirst.inOrder depthFirst.inOrder
  intro first second _ _ forth back
  exact absurd back forth.asymm

mutual

/-- The walk through a node at an address. -/
def walkAt (address : List Nat) : RichText → List Visit
  | ⟨_, _, content⟩ => .enter address :: (contentWalkAt address 0 content ++ [.leave address])

/-- The walk through nodes that stand side by side, from a place on. -/
def contentWalkAt (outer : List Nat) (place : Nat) : List RichText → List Visit
  | [] => []
  | node :: rest => walkAt (outer ++ [place]) node ++ contentWalkAt outer (place + 1) rest

end

def walk (node : RichText) : List Visit := node.walkAt []

theorem Visit.address_eq_iff {visit : Visit} {address : List Nat} :
    visit.address = address ↔ visit = .enter address ∨ visit = .leave address := by
  cases visit <;> simp [Visit.address]

mutual

theorem mem_walkAt_iff {visit : Visit} (address : List Nat) : (node : RichText) →
    (visit ∈ node.walkAt address ↔
      ∃ rest, visit.address = address ++ rest ∧ (node.nodeAt? rest).isSome)
  | ⟨type, text, content⟩ => by
      have inside := @mem_contentWalkAt_iff visit address 0 content
      simp only [Nat.zero_add] at inside
      rw [walkAt, List.mem_cons, List.mem_append, List.mem_singleton, inside]
      constructor
      · intro visited
        rcases visited with entered | within | left
        · exact ⟨[], by rw [entered, List.append_nil]; rfl, rfl⟩
        · obtain ⟨place, rest, same, found⟩ := within
          exact ⟨place :: rest, same, found⟩
        · exact ⟨[], by rw [left, List.append_nil]; rfl, rfl⟩
      · intro addressed
        obtain ⟨rest, same, found⟩ := addressed
        cases rest with
        | nil =>
            rw [List.append_nil, Visit.address_eq_iff] at same
            exact same.imp_right .inr
        | cons place rest => exact .inr (.inl ⟨place, rest, same, found⟩)

theorem mem_contentWalkAt_iff {visit : Visit} (outer : List Nat) (place : Nat) :
    (content : List RichText) →
    (visit ∈ contentWalkAt outer place content ↔
      ∃ number rest, visit.address = outer ++ (place + number) :: rest ∧
        (content[number]?.bind fun child => child.nodeAt? rest).isSome)
  | [] => by simp [contentWalkAt]
  | node :: others => by
      rw [contentWalkAt, List.mem_append, mem_walkAt_iff,
        mem_contentWalkAt_iff outer (place + 1) others]
      constructor
      · intro visited
        rcases visited with ⟨rest, same, found⟩ | ⟨number, rest, same, found⟩
        · exact ⟨0, rest, by simpa using same, found⟩
        · refine ⟨number + 1, rest, ?_, found⟩
          rw [same, Nat.add_assoc, Nat.add_comm 1 number]
      · intro addressed
        obtain ⟨number, rest, same, found⟩ := addressed
        cases number with
        | zero => exact .inl ⟨rest, by simpa using same, found⟩
        | succ number =>
            refine .inr ⟨number, rest, ?_, found⟩
            rw [same, Nat.add_assoc, Nat.add_comm 1 number]

end

mutual

theorem pairwise_walkAt (address : List Nat) : (node : RichText) →
    (node.walkAt address).Pairwise Visit.Before
  | ⟨type, text, content⟩ => by
      have within : ∀ visit ∈ contentWalkAt address 0 content,
          ∃ place rest, visit.address = address ++ place :: rest := by
        intro visit visited
        obtain ⟨number, rest, same, -⟩ := (mem_contentWalkAt_iff address 0 content).mp visited
        exact ⟨_, rest, same⟩
      rw [walkAt, List.pairwise_cons, List.pairwise_append]
      refine ⟨fun visit visited => ?_, pairwise_contentWalkAt address 0 content,
        List.pairwise_singleton _ _, fun visit visited last isLast => ?_⟩
      · rcases List.mem_append.mp visited with inContent | isLast
        · obtain ⟨place, rest, inside⟩ := within visit inContent
          exact .down inside
        · rw [List.mem_singleton.mp isLast]
          exact .own address
      · obtain ⟨place, rest, inside⟩ := within visit visited
        rw [List.mem_singleton.mp isLast]
        exact .up inside

theorem pairwise_contentWalkAt (outer : List Nat) (place : Nat) : (content : List RichText) →
    (contentWalkAt outer place content).Pairwise Visit.Before
  | [] => .nil
  | node :: others => by
      rw [contentWalkAt, List.pairwise_append]
      refine ⟨pairwise_walkAt (outer ++ [place]) node,
        pairwise_contentWalkAt outer (place + 1) others, fun visit visited later behind => ?_⟩
      obtain ⟨rest, inside, -⟩ := (mem_walkAt_iff _ node).mp visited
      obtain ⟨number, otherRest, laterInside, -⟩ := (mem_contentWalkAt_iff outer _ others).mp behind
      rw [List.append_assoc] at inside
      exact .apart inside laterInside (by omega)

end

theorem depthFirst_walk (node : RichText) : node.DepthFirst node.walk := by
  have visited : ∀ visit, visit ∈ node.walk ↔ (node.nodeAt? visit.address).isSome := by
    intro visit
    rw [walk, mem_walkAt_iff]
    simp
  refine ⟨fun address => visited _, fun address => visited _, ?_, pairwise_walkAt [] node⟩
  exact (pairwise_walkAt [] node).imp Visit.Before.ne

/-- Whether a line ends with a node. -/
def EndsLine (node : RichText) : Prop :=
  node.type = "paragraph" ∨ node.type = "heading" ∨ node.type = "listItem"

instance (node : RichText) : Decidable node.EndsLine :=
  inferInstanceAs (Decidable (_ ∨ _ ∨ _))

/-- The text that a walk comes past at a visit: that of a node when it is entered, and the end of
its line when it is left. -/
def emitted (node : RichText) : Visit → List Char
  | .enter address =>
      match node.nodeAt? address with
      | some inner => (inner.text.getD "").toList
      | none => []
  | .leave address =>
      match node.nodeAt? address with
      | some inner => if inner.EndsLine then ['\n'] else []
      | none => []

theorem lineEnd_type (node : RichText) :
    lineEnd node.type = if node.EndsLine then ['\n'] else [] := by
  by_cases ends : node.EndsLine
  · rw [if_pos ends]
    rcases ends with ends | ends | ends <;> rw [ends] <;> rfl
  · rw [if_neg ends, lineEnd, if_neg]
    simpa [blockTypes, EndsLine] using ends

/-- Whether nodes stand side by side in the node at an address, from a place on. -/
def HasContentAt (document : RichText) (outer : List Nat) (place : Nat)
    (content : List RichText) : Prop :=
  ∀ number child, content[number]? = some child →
    document.nodeAt? (outer ++ [place + number]) = some child

section Content

variable {document : RichText} {address outer : List Nat} {place : Nat}

theorem hasContentAt_of_nodeAt? {node : RichText} (found : document.nodeAt? address = some node) :
    document.HasContentAt address 0 node.content := by
  intro number child childFound
  rw [nodeAt?_append, found, Option.bind_some, nodeAt?, Nat.zero_add, childFound]
  rfl

theorem HasContentAt.first {node : RichText} {others : List RichText}
    (holds : document.HasContentAt outer place (node :: others)) :
    document.nodeAt? (outer ++ [place]) = some node :=
  holds 0 node rfl

theorem HasContentAt.rest {node : RichText} {others : List RichText}
    (holds : document.HasContentAt outer place (node :: others)) :
    document.HasContentAt outer (place + 1) others := by
  intro number child found
  rw [Nat.add_assoc, Nat.add_comm 1 number]
  exact holds (number + 1) child found

mutual

theorem flatMap_emitted_walkAt {address : List Nat} : (node : RichText) →
    document.nodeAt? address = some node →
      (node.walkAt address).flatMap document.emitted = node.plainChars
  | ⟨type, text, content⟩, found => by
      have inner := flatMap_emitted_contentWalkAt content (hasContentAt_of_nodeAt? found)
      simp [walkAt, plainChars, inner, emitted, found, ← lineEnd_type]

theorem flatMap_emitted_contentWalkAt {outer : List Nat} {place : Nat} :
    (content : List RichText) → document.HasContentAt outer place content →
      (contentWalkAt outer place content).flatMap document.emitted = contentChars content
  | [], _ => rfl
  | node :: others, holds => by
      rw [contentWalkAt, List.flatMap_append, flatMap_emitted_walkAt node holds.first,
        flatMap_emitted_contentWalkAt others holds.rest, contentChars]

end

end Content

theorem plainChars_eq_flatMap_walk (node : RichText) :
    node.plainChars = node.walk.flatMap node.emitted :=
  (flatMap_emitted_walkAt node rfl).symm

/-- A length of texts, in characters or in bytes, by which the end of a line is one long. -/
structure IsLength (measure : List Char → Nat) : Prop where
  nil : measure [] = 0
  append : ∀ first second, measure (first ++ second) = measure first + measure second
  newLine : measure ['\n'] = 1

theorem isLength_length : IsLength List.length :=
  ⟨rfl, fun _ _ => List.length_append, rfl⟩

theorem isLength_byteLength : IsLength byteLength :=
  ⟨rfl, byteLength_append, rfl⟩

/-- The nodes that a walk enters, in its order. -/
def enteredNodes (document : RichText) (visits : List Visit) : List RichText :=
  visits.filterMap fun visit =>
    match visit with
    | .enter address => document.nodeAt? address
    | .leave _ => none

/-- The lengths of the texts of nodes, and of the ends of their lines. -/
def totalLength (measure : List Char → Nat) (nodes : List RichText) : Nat :=
  (nodes.map fun node => measure (node.text.getD "").toList).sum +
    nodes.countP fun node => decide node.EndsLine

section Length

variable {document : RichText} {measure : List Char → Nat}

theorem totalLength_append (first second : List RichText) :
    totalLength measure (first ++ second) =
      totalLength measure first + totalLength measure second := by
  simp only [totalLength, List.map_append, List.sum_append, List.countP_append]
  omega

theorem enteredNodes_walkAt {type : String} {text : Option String} {content : List RichText}
    {address : List Nat} (found : document.nodeAt? address = some ⟨type, text, content⟩) :
    document.enteredNodes (walkAt address ⟨type, text, content⟩) =
      [⟨type, text, content⟩] ++ document.enteredNodes (contentWalkAt address 0 content) := by
  simp [enteredNodes, walkAt, found]

theorem IsLength.totalLength_singleton (isLength : IsLength measure) (node : RichText) :
    totalLength measure [node] =
      measure (node.text.getD "").toList + measure (lineEnd node.type) := by
  rw [lineEnd_type]
  by_cases ends : node.EndsLine <;> simp [totalLength, ends, isLength.nil, isLength.newLine]

mutual

theorem IsLength.plainChars {address : List Nat} (isLength : IsLength measure) :
    (node : RichText) → document.nodeAt? address = some node →
      measure node.plainChars = totalLength measure (document.enteredNodes (node.walkAt address))
  | ⟨type, text, content⟩, found => by
      have inner := isLength.contentChars content (hasContentAt_of_nodeAt? found)
      have own := isLength.totalLength_singleton ⟨type, text, content⟩
      rw [enteredNodes_walkAt found, totalLength_append, own, ← inner, RichText.plainChars,
        isLength.append, isLength.append]
      dsimp only
      omega

theorem IsLength.contentChars {outer : List Nat} {place : Nat} (isLength : IsLength measure) :
    (content : List RichText) → document.HasContentAt outer place content →
      measure (contentChars content) =
        totalLength measure (document.enteredNodes (contentWalkAt outer place content))
  | [], _ => isLength.nil
  | node :: others, holds => by
      rw [RichText.contentChars, isLength.append, isLength.plainChars node holds.first,
        isLength.contentChars others holds.rest, contentWalkAt, ← totalLength_append,
        enteredNodes, enteredNodes, enteredNodes, List.filterMap_append]

end

end Length

end IssueQuery.RichText
