import WikibaseQuery.Text.ClusterKind

/-!
# Clusters

`clusters` cuts a text into its extended grapheme clusters.  Whether a character goes on with the
cluster before it depends on the kinds of the two characters, and for flags, pictures and conjuncts
on the `Chain` that the text before them ends in.

* `flatten_clusters`: the clusters of a text are that text.
* `ne_nil_of_mem_clusters`: none of them is empty.
-/

namespace WikibaseQuery

/-! ## Chains -/

/-- What the text so far ends in, as far as it matters for the next character. -/
inductive Chain where
  | none
  /-- The first half of a flag. -/
  | regional
  /-- A pictograph with its extenders. -/
  | pictograph
  /-- A pictograph with its extenders and a joiner. -/
  | joinedPictograph
  /-- A consonant with its extenders. -/
  | consonant
  /-- A consonant with its extenders, a linker among them. -/
  | linkedConsonant
  deriving DecidableEq, Repr

/-- The chain after one more character. -/
def Chain.next (chain : Chain) : ClusterKind → Chain
  | .regional => if chain = .regional then .none else .regional
  | .pictograph => .pictograph
  | .consonant => .consonant
  | .extender => match chain with
    | .pictograph => .pictograph
    | .consonant => .consonant
    | .linkedConsonant => .linkedConsonant
    | _ => .none
  | .linker => match chain with
    | .pictograph => .pictograph
    | .consonant | .linkedConsonant => .linkedConsonant
    | _ => .none
  | .nonJoiner => if chain = .pictograph then .pictograph else .none
  | .joiner => match chain with
    | .pictograph => .joinedPictograph
    | .consonant => .consonant
    | .linkedConsonant => .linkedConsonant
    | _ => .none
  | _ => .none

/-! ## Boundaries -/

/-- Whether a character belongs to the cluster of the one before it. -/
def adjoins (chain : Chain) (last next : ClusterKind) : Bool :=
  match last, next with
  | .carriageReturn, .lineFeed => true
  | .carriageReturn, _ | .lineFeed, _ | .control, _ => false
  | _, .carriageReturn | _, .lineFeed | _, .control => false
  | _, .extender | _, .linker | _, .nonJoiner | _, .joiner | _, .spacingMark => true
  | .prepended, _ => true
  | .leading, .leading | .leading, .vowel => true
  | .leading, .openSyllable | .leading, .closedSyllable => true
  | .openSyllable, .vowel | .vowel, .vowel => true
  | .openSyllable, .trailing | .vowel, .trailing => true
  | .closedSyllable, .trailing | .trailing, .trailing => true
  | _, .regional => chain = .regional
  | _, .pictograph => chain = .joinedPictograph
  | _, .consonant => chain = .linkedConsonant
  | _, _ => false

/-! ## Cutting -/

/-- What belongs to the cluster before the text, and the clusters after it. -/
def clustersAfter (chain : Chain) (last : ClusterKind) :
    List Char → List Char × List (List Char)
  | [] => ([], [])
  | c :: rest =>
    let kind := clusterKind c
    let (first, others) := clustersAfter (chain.next kind) kind rest
    if adjoins chain last kind then (c :: first, others) else ([], (c :: first) :: others)

/-- The clusters of a text. -/
def clusters : List Char → List (List Char)
  | [] => []
  | c :: rest =>
    let kind := clusterKind c
    let (first, others) := clustersAfter (Chain.none.next kind) kind rest
    (c :: first) :: others

theorem flatten_clustersAfter (chain : Chain) (last : ClusterKind) (cs : List Char) :
    (clustersAfter chain last cs).1 ++ (clustersAfter chain last cs).2.flatten = cs := by
  induction cs generalizing chain last with
  | nil => rfl
  | cons c rest ih =>
    simp only [clustersAfter]
    split <;> simp [ih]

/-- The clusters of a text are that text. -/
@[simp] theorem flatten_clusters (cs : List Char) : (clusters cs).flatten = cs := by
  cases cs with
  | nil => rfl
  | cons c rest => simp [clusters, flatten_clustersAfter]

theorem ne_nil_of_mem_clustersAfter {chain : Chain} {last : ClusterKind} {cs cluster : List Char}
    (h : cluster ∈ (clustersAfter chain last cs).2) : cluster ≠ [] := by
  induction cs generalizing chain last with
  | nil => simp [clustersAfter] at h
  | cons c rest ih =>
    simp only [clustersAfter] at h
    split at h
    · exact ih h
    · rcases List.mem_cons.mp h with rfl | h
      · simp
      · exact ih h

/-- No cluster is empty. -/
theorem ne_nil_of_mem_clusters {cs cluster : List Char} (h : cluster ∈ clusters cs) :
    cluster ≠ [] := by
  cases cs with
  | nil => simp [clusters] at h
  | cons c rest =>
    rcases List.mem_cons.mp h with rfl | h
    · simp
    · exact ne_nil_of_mem_clustersAfter h

end WikibaseQuery
