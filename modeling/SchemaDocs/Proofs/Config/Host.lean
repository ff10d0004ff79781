import SchemaDocs.Proofs.Config.Parameter
import SchemaDocs.Proofs.Markup.Cut
import SchemaDocs.Proofs.Markup.Reading
import SchemaDocs.Proofs.Text.Lines
/-!
# Hosts from a file and from a parameter

A file sets the host of links as it is written, and a parameter without the slashes at its end.  As
the path of a link begins with a slash itself, every link to the site shows where such a host came
from, and no other text does.
-/

namespace SchemaDocs

/-! ## Hosts in links -/

namespace Markup

/-- The number of links in a cut. -/
def Cut.links {Link : Type} : Cut Link → Nat
  | last _ => 0
  | more _ _ rest => rest.links + 1

/-- Each link is longer by the host that is put into it. -/
theorem length_write_absolute (host : List Char) (cut : Cut RootedLink) :
    (cut.write (RootedLink.absolute host)).length =
      (cut.write RootedLink.chars).length + cut.links * host.length := by
  induction cut with
  | last gap => simp [Cut.write, Cut.links]
  | more gap link rest ih =>
      have hlink : (link.absolute host).length = link.chars.length + host.length := by
        simp only [RootedLink.absolute, RootedLink.chars, List.length_append, List.length_cons]
        omega
      simp only [Cut.write, Cut.links, List.length_append, ih, hlink, Nat.add_mul, Nat.one_mul]
      omega

/-- Where a cut has no links, no link stands anywhere in its text. -/
theorem not_infix_of_links_eq_zero {Link : Type} {chars : Link → List Char}
    (hdelimited : Delimited chars) {s : List Char} {cut : Cut Link} (hcut : cut.Of chars s)
    (hnone : cut.links = 0) (link : Link) : ¬ chars link <:+: s := by
  cases cut with
  | more _ _ _ => cases hnone
  | last gap =>
      obtain rfl : gap = s := hcut.text
      rintro ⟨before, rest, htext⟩
      rw [List.append_assoc] at htext
      exact hdelimited.not_last hcut.leftmost htext.symm

/-- Hosts of different lengths are told apart by each link to the site, and by nothing else. -/
theorem replaceLinks_eq_iff {a b : String} (hlength : a.toList.length ≠ b.toList.length)
    (comment : String) :
    replaceLinks a comment = replaceLinks b comment ↔
      ∀ link : RootedLink, ¬ link.chars <:+: referencePattern.replace comment.toList := by
  rw [← String.toList_inj, replaceLinks, replaceLinks, Text.toList_onChars, Text.toList_onChars,
    replaceLinkChars, replaceLinkChars]
  generalize referencePattern.replace comment.toList = s
  constructor
  · intro hsame
    obtain ⟨cut, hcut, ha⟩ := (finds_rootedPattern a.toList).exists_cut s
    have hb := (finds_rootedPattern b.toList).replace_eq_write hcut
    have hlengths := congrArg List.length hsame
    rw [ha, hb, length_write_absolute, length_write_absolute, Nat.add_left_cancel_iff] at hlengths
    have hnone : cut.links = 0 := by
      by_contra hsome
      exact hlength (Nat.eq_of_mul_eq_mul_left (Nat.pos_of_ne_zero hsome) hlengths)
    exact not_infix_of_links_eq_zero RootedLink.delimited hcut hnone
  · intro hnone
    rw [(finds_rootedPattern a.toList).replacesLinks.eq_self s hnone,
      (finds_rootedPattern b.toList).replacesLinks.eq_self s hnone]

end Markup

namespace Config

open Setting Markup

/-! ## Slashes at the end -/

theorem dropSlashes_isPrefix (s : List Char) : dropSlashes s <+: s :=
  List.rdropWhile_prefix (fun c => decide (c = '/')) s

theorem dropSlashes_eq_self_iff {s : List Char} : dropSlashes s = s ↔ s.getLast? ≠ some '/' := by
  have hdrop : dropSlashes s = s.rdropWhile fun c => decide (c = '/') := rfl
  rw [hdrop, List.rdropWhile_eq_self_iff]
  constructor
  · intro h hlast
    have hne : s ≠ [] := by
      rintro rfl
      cases hlast
    rw [List.getLast?_eq_some_getLast hne, Option.some.injEq] at hlast
    exact h hne (decide_eq_true hlast)
  · intro h hne hslash
    rw [List.getLast?_eq_some_getLast hne] at h
    exact h (congrArg some (of_decide_eq_true hslash))

theorem length_dropSlashes_eq_iff {s : List Char} :
    (dropSlashes s).length = s.length ↔ s.getLast? ≠ some '/' := by
  rw [← dropSlashes_eq_self_iff]
  exact ⟨(dropSlashes_isPrefix s).eq_of_length, congrArg List.length⟩

/-! ## The host of a parameter -/

theorem trim_pair {host : List Char} (h : Text.trim host = host) :
    Text.trim ("docs_host=".toList ++ host) = "docs_host=".toList ++ host := by
  have hstart : Text.trimStart ("docs_host=".toList ++ host) = "docs_host=".toList ++ host := rfl
  rw [Text.trim, hstart, Text.trimEnd_eq_self_iff]
  intro c hlast
  rw [List.getLast?_append, Option.or_eq_some_iff] at hlast
  rcases hlast with hlast | ⟨-, hlast⟩
  · rw [← h] at hlast
    exact Text.isBlank_of_getLast?_trimEnd hlast
  · obtain rfl : '=' = c := Option.some.inj hlast
    rfl

theorem pairsOf_host {host : String} (hcomma : ',' ∉ host.toList)
    (htrim : Text.trim host.toList = host.toList) :
    pairsOf ("docs_host=" ++ host) = ["docs_host=".toList ++ host.toList] := by
  have hfree : ',' ∉ "docs_host=".toList ++ host.toList := by
    rw [List.mem_append, not_or]
    exact ⟨by decide, hcomma⟩
  rw [pairsOf, String.toList_append, Text.splitAt_of_not_mem hfree, List.map_singleton,
    trim_pair htrim]
  rfl

/-- The first equals sign ends the key, so that a host may hold more of them. -/
theorem applyParameter_host {host : String} (hcomma : ',' ∉ host.toList)
    (htrim : Text.trim host.toList = host.toList) (base : Config) :
    base.applyParameter ("docs_host=" ++ host) =
      (.ok (), { base with docsHost := Text.onChars dropSlashes host }) := by
  have hpair : base.applyPair ("docs_host=".toList ++ host.toList) =
      base.set "docs_host" (String.ofList (Text.trim host.toList)) := rfl
  rw [applyParameter, pairsOf_host hcomma htrim, applyPairs, hpair, htrim, String.ofList_toList]
  rfl

/-! ## Two ways to set a host -/

/-- A host without commas and without blanks at its ends is set by a file as it is, and by a
parameter without the slashes at its end.  Batches with the one and with the other replace the links
of a comment alike where the host does not end in a slash, and else only where the comment has no
link to the site. -/
theorem hosts_alike_but_for_slashes {text : String} {fromFile : Config} {host : String}
    (hfile : ofYaml text = .ok fromFile)
    (hhost : last? docsHost? (Setting.ofText text) = some host)
    (hcomma : ',' ∉ host.toList) (htrim : Text.trim host.toList = host.toList) (base : Config) :
    ∃ fromParameter, base.applyParameter ("docs_host=" ++ host) = (.ok (), fromParameter) ∧
      (Batch.new fromFile.markup).settings.host = host ∧
      (Batch.new fromParameter.markup).settings.host = Text.onChars dropSlashes host ∧
      ∀ comment,
        replaceLinks (Batch.new fromFile.markup).settings.host comment =
            replaceLinks (Batch.new fromParameter.markup).settings.host comment ↔
          host.toList.getLast? ≠ some '/' ∨
            ∀ link : RootedLink, ¬ link.chars <:+: referencePattern.replace comment.toList := by
  have hset : (Batch.new fromFile.markup).settings.host = host := by
    rw [ofYaml_ok hfile, settled, hhost]
    rfl
  refine ⟨_, applyParameter_host hcomma htrim base, hset, rfl, fun comment => ?_⟩
  rw [hset]
  by_cases hslash : host.toList.getLast? = some '/'
  · have hlength : host.toList.length ≠ (Text.onChars dropSlashes host).toList.length := by
      rw [Text.toList_onChars]
      exact fun hsame => length_dropSlashes_eq_iff.1 hsame.symm hslash
    rw [show (Batch.new _).settings.host = Text.onChars dropSlashes host from rfl,
      replaceLinks_eq_iff hlength, or_iff_right (not_not_intro hslash)]
  · have hsame : Text.onChars dropSlashes host = host := by
      rw [← String.toList_inj, Text.toList_onChars, dropSlashes_eq_self_iff]
      exact hslash
    refine iff_of_true ?_ (.inl hslash)
    exact congrArg (replaceLinks · comment) hsame.symm

/-- A host with an equals sign in it and two slashes at its end.  A reference link does not show
where the host was set, and a link to the site does. -/
theorem slashes_of_host_shown_by_link :
    let text := "# Links\ndocs_host: \"https://x.org/?a=b//\"\n"
    let host := "https://x.org/?a=b//"
    let fromFile : Config := { docsHost := host }
    ofYaml text = .ok fromFile ∧ last? docsHost? (Setting.ofText text) = some host ∧
      ',' ∉ host.toList ∧ Text.trim host.toList = host.toList ∧
      ∃ fromParameter, applyParameter {} ("docs_host=" ++ host) = (.ok (), fromParameter) ∧
        replaceLinks (Batch.new fromFile.markup).settings.host "See [A][b.C]." =
          replaceLinks (Batch.new fromParameter.markup).settings.host "See [A][b.C]." ∧
        replaceLinks (Batch.new fromFile.markup).settings.host "See [A](/b)." ≠
          replaceLinks (Batch.new fromParameter.markup).settings.host "See [A](/b)." := by
  intro text host fromFile
  have hfile : ofYaml text = .ok fromFile := eq_ok_of_toOption (by decide +kernel)
  have hhost : last? docsHost? (Setting.ofText text) = some host := by decide +kernel
  have hcomma : ',' ∉ host.toList := by decide
  have htrim : Text.trim host.toList = host.toList := by decide
  obtain ⟨fromParameter, happly, -, -, halike⟩ :=
    hosts_alike_but_for_slashes hfile hhost hcomma htrim {}
  refine ⟨hfile, hhost, hcomma, htrim, fromParameter, happly, (halike _).2 (.inr ?_), ?_⟩
  · intro link hlink
    have hbracket : '[' ∈ referencePattern.replace "See [A][b.C].".toList :=
      hlink.subset List.mem_cons_self
    exact absurd hbracket (by decide +kernel)
  · intro hsame
    let link : RootedLink := ⟨['A'], ['b'], by decide, by decide, by decide, by decide⟩
    rcases (halike _).1 hsame with hslash | hnone
    · exact hslash (by decide)
    · exact hnone link ⟨"See ".toList, ['.'], by decide +kernel⟩

/-- A slash at the end of a host stays in a file and goes in a parameter, and a link shows it. -/
theorem slash_of_host_kept_from_file :
    let host := "https://x.org/"
    ∃ fromFile fromParameter : Config,
      ofYaml ("docs_host: " ++ host) = .ok fromFile ∧
      applyParameter {} ("docs_host=" ++ host) = (.ok (), fromParameter) ∧
      ',' ∉ host.toList ∧ Text.trim host.toList = host.toList ∧
      replaceLinks (Batch.new fromFile.markup).settings.host "[a](/b)" = "[a](https://x.org//b)" ∧
      replaceLinks (Batch.new fromParameter.markup).settings.host "[a](/b)" =
        "[a](https://x.org/b)" ∧
      replaceLinks (Batch.new fromFile.markup).settings.host "[a](/b)" ≠
        replaceLinks (Batch.new fromParameter.markup).settings.host "[a](/b)" := by
  intro host
  have hcomma : ',' ∉ host.toList := by decide
  have htrim : Text.trim host.toList = host.toList := by decide
  refine ⟨{ docsHost := "https://x.org/" }, _, eq_ok_of_toOption (by decide +kernel),
    applyParameter_host hcomma htrim {}, hcomma, htrim, ?_, ?_, ?_⟩
  · decide +kernel
  · decide +kernel
  · decide +kernel

end Config

end SchemaDocs
