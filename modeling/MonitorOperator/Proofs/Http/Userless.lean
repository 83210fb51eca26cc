import Mathlib.Data.List.Infix
import Mathlib.Data.List.TakeWhile
import Mathlib.Data.Nat.Digits.Defs
import MonitorOperator.Http.Message
import MonitorOperator.Proofs.Document.Fields

/-!
# URLs without a user

A URL may name a user before its host, and a client then sends this user's authorization. Only an at
sign in the authority can tell a user from the host. A URL that is read from a host without one is
`Url.Userless`, and so are the URLs below it (`Url.Userless.append`). A request to such a URL is sent
with the authorization that was asked for (`Url.Userless.effectiveAuthorization_eq`).
-/

namespace MonitorOperator.Http

/-- No other character has the at sign as its lower case. -/
theorem eq_at_of_toLower {character : Char} (h : character.toLower = '@') : character = '@' := by
  unfold Char.toLower at h
  split at h
  · next hupper =>
      -- The lower case of a letter comes after the at sign.
      have hval : character.val + 32 = 64 := congrArg Char.val h
      have hlow : 65 ≤ character.val := hupper.1
      have hhigh : character.val ≤ 90 := hupper.2
      grind
  · exact h

/-- Lower case brings no at sign in. -/
theorem notMem_lowerAscii {text : String} (h : '@' ∉ text.toList) :
    '@' ∉ (Text.lowerAscii text).toList := by
  simp only [Text.lowerAscii, String.toList_ofList, List.mem_map, not_exists, not_and]
  intro character hmem heq
  exact h (eq_at_of_toLower heq ▸ hmem)

/-- A number has no at sign. -/
theorem notMem_ofInt (number : Int) : '@' ∉ (Text.ofInt number).toList := by
  have hdigits : '@' ∉ Text.decimalDigits number.natAbs := by
    intro hmem
    exact absurd (Nat.isDigit_of_mem_toDigits (by decide) (by decide) hmem) (by decide)
  unfold Text.ofInt
  split
  · simpa using hdigits
  · simpa using hdigits

namespace Percent

/-- An escape has no at sign. -/
theorem notMem_escape (byte : UInt8) : '@' ∉ escape byte := by
  have hdigit : ∀ value < 16, upperHexDigit value ≠ '@' := by decide
  have hbyte := byte.toNat_lt
  have hhigh := hdigit (byte.toNat / 16) (by omega)
  have hlow := hdigit (byte.toNat % 16) (by omega)
  simp [escape, hhigh.symm, hlow.symm]

/-- Escapes have no at sign. -/
theorem notMem_escapeCharacter (character : Char) : '@' ∉ escapeCharacter character := by
  simp only [escapeCharacter, List.mem_flatMap, not_exists, not_and]
  intro byte _
  exact notMem_escape byte

/-- Escaping brings no at sign in. -/
theorem notMem_encode {allowed : Char → Bool} {characters : List Char} (h : '@' ∉ characters) :
    '@' ∉ encode allowed characters := by
  have hescaped := notMem_escapeCharacter
  fun_induction encode allowed characters with
  | case1 high low rest _ ih =>
      simp only [List.mem_cons, not_or] at h ⊢
      exact ⟨h.1, h.2.1, h.2.2.1, ih h.2.2.2⟩
  | case2 high low rest _ ih =>
      have hrest := ih (List.not_mem_of_not_mem_cons h)
      simp only [List.mem_append, not_or]
      refine ⟨?_, hrest⟩
      split
      · decide
      · exact hescaped '%'
  | case3 character rest _ ih =>
      have hrest := ih (List.not_mem_of_not_mem_cons h)
      simp only [List.mem_append, not_or]
      refine ⟨?_, hrest⟩
      split
      · exact fun hmem => h (List.mem_singleton.1 hmem ▸ List.mem_cons_self)
      · exact hescaped character
  | case4 => exact h

end Percent

/-- The host that an authority begins with consists of characters of the authority. -/
theorem Address.splitHost_subset (characters : List Char) :
    (splitHost characters).1 ⊆ characters := by
  have hplain : characters.takeWhile (· != ':') ⊆ characters :=
    (List.takeWhile_sublist _).subset
  unfold splitHost
  dsimp only
  split
  · next rest =>
      have hback := (List.dropWhile_sublist (· != ']') (l := ('[' :: rest).reverse)).subset
      split
      · exact hplain
      · intro character hmem
        exact List.mem_reverse.1 (hback (List.mem_reverse.1 hmem))
  · exact hplain

/-- What stands before a mark consists of characters of the whole. -/
theorem Url.splitMark_subset (mark : Char) (characters : List Char) :
    (Url.splitMark mark characters).1 ⊆ characters := by
  unfold Url.splitMark
  split
  · next hcut =>
      rw [Text.eq_of_cutAt hcut]
      intro character hmem
      simp [hmem]
  · exact List.Subset.refl _

namespace Url

/-- The URL names no user, and its host has no at sign. -/
structure Userless (url : Url) : Prop where
  userinfo : url.userinfo = ""
  host : '@' ∉ url.host.toList

/-- The normal form of a host without an at sign has none. -/
theorem notMem_normalHost {host normal : String} (h : '@' ∉ host.toList)
    (hnormal : normalHost host = .ok normal) : '@' ∉ normal.toList := by
  unfold normalHost at hnormal
  split at hnormal
  · split at hnormal <;> cases hnormal
    exact h
  · split at hnormal
    · next inside hinside =>
        have hnotMem : '@' ∉ inside := by
          unfold Address.bracketed? at hinside
          split at hinside
          · next rest hhost =>
              split at hinside <;> cases hinside
              rw [hhost] at h
              exact fun hmem => h (List.mem_cons_of_mem _ (List.mem_of_mem_dropLast hmem))
          · cases hinside
        split at hnormal
        · obtain rfl := Except.ok.inj hnormal
          simpa using hnotMem
        · cases hnormal
    · dsimp only at hnormal
      have hlower := notMem_lowerAscii h
      -- The equation is not split by cases, which would evaluate the host.
      split at hnormal
      · obtain rfl := Except.ok.inj hnormal
        simpa [escaped] using Percent.notMem_encode hlower
      · obtain rfl := Except.ok.inj hnormal
        exact hlower

/-- An authority without an at sign has no user. -/
theorem splitAuthority_of_notMem {authority : List Char} (h : '@' ∉ authority) :
    (splitAuthority authority).1 = [] ∧ '@' ∉ (splitAuthority authority).2.1 := by
  have hall : ∀ character ∈ authority.reverse, (character != '@') = true := by
    intro character hmem
    have hne : character ≠ '@' := fun heq => h (heq ▸ List.mem_reverse.1 hmem)
    simpa using hne
  have htake : authority.reverse.takeWhile (· != '@') = authority.reverse :=
    List.takeWhile_eq_self_iff.2 hall
  have hdrop : authority.reverse.dropWhile (· != '@') = [] :=
    List.dropWhile_eq_nil_iff.2 hall
  simp only [splitAuthority, htake, hdrop, List.reverse_reverse]
  exact ⟨trivial, fun hmem => h (Address.splitHost_subset _ hmem)⟩

/-- Parts whose authority has no at sign make a URL without a user. -/
theorem userless_ofParts {scheme authority path : String} {query fragment : Option String}
    {url : Url} (h : '@' ∉ authority.toList)
    (hurl : ofParts scheme authority path query fragment = .ok url) : url.Userless := by
  obtain ⟨huser, hhost⟩ := splitAuthority_of_notMem h
  unfold ofParts at hurl
  dsimp only at hurl
  simp only [bind_eq_ok_iff] at hurl
  obtain ⟨_, _, host, hnormal, port, _, _, _, hparts⟩ := hurl
  cases hparts
  refine ⟨?_, notMem_normalHost (by simpa using hhost) hnormal⟩
  simp [huser]

/-- The authority of a URL without a user has no at sign. -/
theorem Userless.notMem_authority {url : Url} (h : url.Userless) :
    '@' ∉ url.authority.toList := by
  have hbracketed : '@' ∉ (if url.host.toList.contains ':' then "[" ++ url.host ++ "]"
      else url.host).toList := by
    split
    · simpa using h.host
    · exact h.host
  unfold authority
  cases url.port with
  | none => simpa [h.userinfo] using hbracketed
  | some port => simpa [h.userinfo, notMem_ofInt port] using hbracketed

/-- Another path leads to no user. -/
theorem Userless.withTarget {url other : Url} {target : String} (h : url.Userless)
    (hother : url.withTarget target = .ok other) : other.Userless := by
  unfold Url.withTarget at hother
  exact userless_ofParts h.notMem_authority hother

/-- The base of a URL without a user has none. -/
theorem Userless.asBase {url base : Url} (h : url.Userless) (hbase : url.asBase = .ok base) :
    base.Userless := by
  unfold Url.asBase at hbase
  split at hbase
  · cases hbase
    exact h
  · exact h.withTarget hbase

/-- What follows a scheme consists of characters of the whole. -/
theorem splitScheme_subset (characters : List Char) :
    (splitScheme characters).2 ⊆ characters := by
  unfold splitScheme
  dsimp only
  split
  · next rest hrest =>
      split
      · intro character hmem
        exact (List.dropWhile_sublist _).subset (hrest ▸ List.mem_cons_of_mem _ hmem)
      · exact List.Subset.refl _
  · exact List.Subset.refl _

/-- A text without an at sign is a URL without a user. -/
theorem userless_parse {text : String} {url : Url} (h : '@' ∉ text.toList)
    (hurl : parse text = .ok url) : url.Userless := by
  unfold parse at hurl
  dsimp only at hurl
  split at hurl
  · cases hurl
  · split at hurl
    · cases hurl
    · refine userless_ofParts ?_ hurl
      -- The authority is what is left of the text when all else has been cut off.
      have hleft : '@' ∉
          (splitScheme (splitMark '?' (splitMark '#' text.toList).1).1).2 := by
        intro hmem
        exact h (splitMark_subset _ _ (splitMark_subset _ _ (splitScheme_subset _ hmem)))
      rw [String.toList_ofList]
      split
      · next after hafter =>
          rw [Text.dropPattern?_eq_some hafter] at hleft
          intro hmem
          exact hleft (List.mem_append_right _ ((List.takeWhile_sublist _).subset hmem))
      · exact List.not_mem_nil

/-- The scheme of parts is the one that they have, in lower case. -/
theorem scheme_ofParts {scheme authority path : String} {query fragment : Option String} {url : Url}
    (hurl : ofParts scheme authority path query fragment = .ok url) :
    url.scheme = Text.lowerAscii scheme := by
  unfold ofParts at hurl
  dsimp only at hurl
  simp only [bind_eq_ok_iff] at hurl
  obtain ⟨_, _, _, _, _, _, _, _, hparts⟩ := hurl
  cases hparts
  rfl

/-- A path from the root is not absolute as a URL. -/
theorem not_isAbsolute_of_root {path : String} {url : Url} (hurl : parse ("/" ++ path) = .ok url) :
    url.isAbsolute = false := by
  have hmark (mark : Char) (characters : List Char) (hne : mark ≠ '/') :
      ∃ rest, (splitMark mark ('/' :: characters)).1 = '/' :: rest := by
    unfold splitMark
    split
    · next before after hcut =>
        have heq := Text.eq_of_cutAt hcut
        cases before with
        | nil => exact absurd (List.cons.inj heq).1.symm hne
        | cons first before => exact ⟨before, by rw [(List.cons.inj heq).1]⟩
    · exact ⟨characters, rfl⟩
  have hscheme (characters : List Char) : (splitScheme ('/' :: characters)).1 = [] := by
    rfl
  unfold parse at hurl
  dsimp only at hurl
  split at hurl
  · cases hurl
  · split at hurl
    · cases hurl
    · have hnone := scheme_ofParts hurl
      obtain ⟨rest, hrest⟩ := hmark '#' path.toList (by decide)
      obtain ⟨last, hlast⟩ := hmark '?' rest (by decide)
      have hroot : ("/" ++ path).toList = '/' :: path.toList := by simp
      rw [hroot, hrest, hlast, hscheme] at hnone
      simp [isAbsolute, hnone, Text.lowerAscii]

/-- A path from the root leads to no user below a URL without one. -/
theorem Userless.append {base url : Url} {path : String} (h : base.Userless)
    (hurl : base.append ("/" ++ path) = .ok url) : url.Userless := by
  unfold Url.append at hurl
  rw [bind_eq_ok_iff] at hurl
  obtain ⟨reference, hreference, hurl⟩ := hurl
  rw [not_isAbsolute_of_root hreference] at hurl
  exact h.withTarget hurl

/-- A request to a URL without a user is sent with the authorization that was asked for. -/
theorem Userless.effectiveAuthorization_eq {url : Url} (h : url.Userless) (asked : Option String) :
    effectiveAuthorization url none asked = asked := by
  simp [effectiveAuthorization, userinfoPair?, h.userinfo]

end Url

end MonitorOperator.Http
