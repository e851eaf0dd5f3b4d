import ApiMocks.Proofs.UrlNotation

/-!
# Placeholders, wildcards and groups

The three forms of a template come from the same tokens.  A placeholder gives
one parameter, one wildcard and one capturing group.  Literal text gives no
parameter, and its characters are escaped in the expression, so it gives no
group either; but a glob takes literal text as it stands, and a star in it is
one wildcard too many.

* `wildcards_glob`: the wildcards are the placeholders and the literal stars;
* `counts_agree_iff`: the three counts agree exactly without literal stars.
-/

namespace ApiMocks.Path

/-- The literal text of a token; a placeholder has none. -/
def Token.plain : Token → List Char
  | literal text => text
  | param _ => []

/-- The literal text of a template. -/
def literalText (path : String) : List Char := (tokens path.toList).flatMap Token.plain

/-- The number of stars in a glob behind its base. -/
def wildcards (base glob : String) : Nat := (glob.toList.drop base.toList.length).count '*'

/-- A template has as many wildcards and as many groups as parameters. -/
def CountsAgree (path base : String) : Prop :=
  wildcards base (Pattern.ofPath path base).glob = (Pattern.ofPath path base).params.length ∧
  (UrlRegex.read? (regexSource path).toList).map UrlRegex.groups =
    some (Pattern.ofPath path base).params.length

/-- A glob starts with its base. -/
theorem toList_glob (path base : String) :
    (glob path base).toList = base.toList ++ (tokens path.toList).flatMap Token.glob := by
  rw [glob, String.toList_append, String.toList_ofList]

theorem count_star_glob (t : Token) :
    t.glob.count '*' = t.name?.toList.length + t.plain.count '*' := by
  cases t with
  | literal text => exact (Nat.zero_add _).symm
  | param name => rfl

/-- **The wildcards of a glob** are the placeholders of the template and the
stars of its literal text. -/
theorem wildcards_glob (path base : String) :
    wildcards base (glob path base) =
      (params path).length + (literalText path).count '*' := by
  rw [wildcards, toList_glob, List.drop_left, length_params, literalText]
  induction tokens path.toList with
  | nil => rfl
  | cons t ts ih =>
      rw [List.flatMap_cons, List.flatMap_cons, List.count_append, List.count_append,
        count_star_glob, ih, length_names_cons]
      omega

/-- The groups of the notation are the placeholders, whatever the literal text. -/
theorem groups_regexSource (path : String) :
    (UrlRegex.read? (regexSource path).toList).map UrlRegex.groups =
      some (params path).length := by
  rw [read?_regexSource, Option.map_some, groups_regex]

/-- **When the three counts agree.**  There is always one group for each
parameter.  Behind its base, the glob has one wildcard for each parameter and
one for each star in the literal text, so all three counts agree exactly if
the literal text has no star. -/
theorem counts_agree_iff (path base : String) :
    base.toList <+: (Pattern.ofPath path base).glob.toList ∧
    (UrlRegex.read? (regexSource path).toList).map UrlRegex.groups =
      some (Pattern.ofPath path base).params.length ∧
    wildcards base (Pattern.ofPath path base).glob =
      (Pattern.ofPath path base).params.length + (literalText path).count '*' ∧
    (CountsAgree path base ↔ '*' ∉ literalText path) := by
  have hgroups := groups_regexSource path
  have hwildcards := wildcards_glob path base
  refine ⟨⟨_, (toList_glob path base).symm⟩, hgroups, hwildcards, ?_⟩
  constructor
  · intro h
    have hzero : (literalText path).count '*' = 0 := by
      have := hwildcards.symm.trans h.1
      simp only [Pattern.ofPath] at this
      omega
    exact List.count_eq_zero.mp hzero
  · intro hstar
    have hzero : (literalText path).count '*' = 0 := List.count_eq_zero.mpr hstar
    exact ⟨by rw [hzero] at hwildcards; exact hwildcards, hgroups⟩

/-- A template without placeholders can have a wildcard. -/
theorem not_counts_agree_literal_star : ¬ CountsAgree "/a*b" "**" := by
  intro h
  exact absurd h.1 (by decide)

end ApiMocks.Path
