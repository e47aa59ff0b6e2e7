import PagedQuery.Proofs.Text.Decimal
import PagedQuery.Proofs.Url.Percent
import PagedQuery.Url.Basic

/-!
# PagedQuery.Proofs.Url.Front

What stands in front of the query of an address.  The parts of an address that is read have their
question marks encoded, or none at all (`isUnmarked_of_ofText?`), so that the first question mark
of its text is the one in front of its query.
-/

namespace PagedQuery.Url

theorem not_mem_intercalate {c : Char} {sep : List Char} {pieces : List (List Char)}
    (hsep : c ∉ sep) (h : ∀ p ∈ pieces, c ∉ p) : c ∉ sep.intercalate pieces := by
  induction pieces with
  | nil => simp [List.intercalate]
  | cons p pieces ih =>
    obtain ⟨hp, hpieces⟩ := List.forall_mem_cons.mp h
    cases pieces with
    | nil => simpa using hp
    | cons q pieces =>
      have hrest := ih hpieces
      rw [List.intercalate_cons_cons]
      simp [hp, hsep, hrest]

/-! ## Hosts -/

theorem mark_not_mem_toDigits {b : Nat} (hb : 1 < b) (n : Nat) : '?' ∉ Nat.toDigits b n := by
  have hdigit : ∀ d, '?' ≠ Nat.digitChar d := fun d => (Nat.digitChar_ne '?' (by decide)).symm
  induction n using Nat.strongRecOn with
  | ind n ih =>
    by_cases hn : n < b
    · rw [Nat.toDigits_of_lt_base hn, List.mem_singleton]
      exact hdigit n
    · have hdiv : n / b < n := Nat.div_lt_self (by omega) hb
      rw [Nat.toDigits_of_base_le hb (by omega), List.mem_append, List.mem_singleton, not_or]
      exact ⟨ih (n / b) hdiv, hdigit (n % b)⟩

theorem mark_not_mem_ipv4Text (n : Nat) : '?' ∉ ipv4Text n := by
  refine not_mem_intercalate (by decide) fun p hp => ?_
  obtain ⟨place, -, rfl⟩ := List.mem_map.mp hp
  exact mark_not_mem_toDigits (by omega) _

theorem mark_not_mem_ipv6Text (pieces : List Nat) : '?' ∉ ipv6Text pieces := by
  have htext : ∀ ps : List Nat, '?' ∉ [':'].intercalate (ps.map (Nat.toDigits 16)) := by
    refine fun ps => not_mem_intercalate (by decide) fun p hp => ?_
    obtain ⟨n, -, rfl⟩ := List.mem_map.mp hp
    exact mark_not_mem_toDigits (by omega) n
  unfold ipv6Text
  simp only
  split
  · exact htext pieces
  · next i n _ =>
    have hfront := htext (pieces.take i)
    have hback := htext (pieces.drop (i + n))
    simp [-List.map_take, -List.map_drop, hfront, hback]

/-- A host has no question mark, whichever way it is written. -/
theorem mark_not_mem_host {cs host : List Char} (h : host? cs = some host) : '?' ∉ host := by
  unfold host? at h
  split at h
  · split at h
    · obtain ⟨pieces, -, rfl⟩ := Option.map_eq_some_iff.mp h
      simp [mark_not_mem_ipv6Text]
    · contradiction
  · obtain ⟨name, -, h⟩ := Option.bind_eq_some_iff.mp h
    split at h
    · contradiction
    · next hname =>
      split at h
      · obtain ⟨parts, -, h⟩ := Option.bind_eq_some_iff.mp h
        obtain ⟨n, -, rfl⟩ := Option.map_eq_some_iff.mp h
        exact mark_not_mem_ipv4Text n
      · obtain rfl : name = host := Option.some.inj h
        intro hmem
        have hany : name.any isForbiddenInName = true := List.any_eq_true.mpr ⟨'?', hmem, rfl⟩
        exact hname (by rw [hany, Bool.or_true])

/-! ## Paths -/

theorem mem_of_mem_stepBack {before : List (List Char)} {s : List Char} (h : s ∈ stepBack before) :
    s ∈ before := by
  cases before with
  | nil => contradiction
  | cons t before =>
    rw [stepBack] at h
    split at h
    · exact h
    · exact List.mem_cons_of_mem t h

/-- The segments of a path are written segments, and maybe an empty one. -/
theorem mem_resolveSegments {isFile : Bool} {before rest : List (List Char)} {s : List Char}
    (h : s ∈ resolveSegments isFile before rest) :
    s = [] ∨ s ∈ before ∨ ∃ front t, s = writtenSegment isFile front t := by
  fun_induction resolveSegments isFile before rest with
  | case1 before => exact .inr (.inl (List.mem_reverse.mp h))
  | case2 before t hdouble => grind [mem_of_mem_stepBack]
  | case3 before t hdouble hsingle => grind
  | case4 before t hdouble hsingle => grind
  | case5 before t rest hrest hdouble ih => grind [mem_of_mem_stepBack]
  | case6 before t rest hrest hdouble hsingle ih => exact ih h
  | case7 before t rest hrest hdouble hsingle ih => grind

theorem mark_not_mem_normalPath (special : Bool) (cs : List Char) :
    '?' ∉ normalPath special cs := by
  intro hmem
  obtain ⟨s, hs, hmem⟩ := List.mem_flatMap.mp hmem
  obtain hslash | hmem := List.mem_cons.mp hmem
  · contradiction
  · obtain rfl | hbefore | ⟨front, t, rfl⟩ := mem_resolveSegments hs
    · contradiction
    · contradiction
    · exact mark_not_mem_percentEncode rfl t hmem

/-! ## Addresses -/

/-- No part of an authority that is written as a text has a question mark. -/
structure Authority.IsUnmarked (a : Authority) : Prop where
  name : '?' ∉ a.user.name
  password : '?' ∉ a.user.password
  host : '?' ∉ a.host

/-- No question mark stands in front of the query. -/
structure IsUnmarked (u : Url) : Prop where
  scheme : '?' ∉ u.scheme.toList
  authority : ∀ a ∈ u.authority, a.IsUnmarked
  path : '?' ∉ u.path

theorem mark_not_mem_userInfo (cs : List Char) :
    '?' ∉ (UserInfo.ofText cs).name ∧ '?' ∉ (UserInfo.ofText cs).password := by
  unfold UserInfo.ofText
  split
  · exact ⟨mark_not_mem_percentEncode rfl _, mark_not_mem_percentEncode rfl _⟩
  · exact ⟨mark_not_mem_percentEncode rfl _, List.not_mem_nil⟩

theorem isUnmarked_of_read? {last : Bool} {usual : Option Nat} {cs back : List Char}
    {a : Authority} (h : Authority.read? true last usual cs = some (a, back)) : a.IsUnmarked := by
  unfold Authority.read? at h
  simp only [Option.bind_eq_bind, Option.bind_eq_some_iff, if_true] at h
  obtain ⟨port, -, host, hhost, heq⟩ := h
  cases heq
  obtain ⟨hname, hpassword⟩ :=
    mark_not_mem_userInfo (Authority.cutUser cs).1
  exact ⟨hname, hpassword, mark_not_mem_host hhost⟩

theorem unmarked_of_readNet? {last : Bool} {usual : Option Nat} {cs path : List Char}
    {a : Authority} (h : readNet? true last usual cs = some (a, path)) :
    a.IsUnmarked ∧ '?' ∉ path := by
  unfold readNet? at h
  simp only [Option.bind_eq_bind, Option.bind_eq_some_iff] at h
  obtain ⟨⟨a', front⟩, hread, heq⟩ := h
  cases heq
  exact ⟨isUnmarked_of_read? hread, mark_not_mem_normalPath true _⟩

theorem mark_not_mem_of_usualPort? {scheme : String} {port : Nat}
    (h : usualPort? scheme = some port) : '?' ∉ scheme.toList := by
  unfold usualPort? at h
  split at h
  · next hscheme => obtain rfl | rfl := hscheme <;> decide
  · split at h
    · next hscheme => obtain rfl | rfl := hscheme <;> decide
    · split at h
      · next hscheme =>
        subst hscheme
        decide
      · contradiction

theorem unmarked_of_readHierarchy? {scheme : String} {port : Nat} {last : Bool}
    {cs path : List Char} {authority : Option Authority} (hport : usualPort? scheme = some port)
    (h : readHierarchy? scheme last cs = some (authority, path)) :
    (∀ a ∈ authority, a.IsUnmarked) ∧ '?' ∉ path := by
  have hfile : scheme ≠ "file" := by
    rintro rfl
    contradiction
  unfold readHierarchy? at h
  simp only [if_neg hfile, hport] at h
  obtain ⟨⟨a, path⟩, hread, heq⟩ := Option.map_eq_some_iff.mp h
  cases heq
  obtain ⟨hauthority, hpath⟩ := unmarked_of_readNet? hread
  exact ⟨fun a' ha' => Option.some.inj ha' ▸ hauthority, hpath⟩

/-- What an address that is read is made of. -/
theorem ofText?_eq_some {text : String} {u : Url} (h : ofText? text = some u) :
    let front := (splitMark '#' (clean text.toList)).1
    (∃ last rest, readHierarchy? u.scheme last rest = some (u.authority, u.path)) ∧
      u.query = (splitMark '?' front).2.map (percentEncode (keepInQuery (isSpecial u.scheme))) := by
  unfold ofText? at h
  simp only [Option.bind_eq_bind, Option.bind_eq_some_iff] at h
  obtain ⟨⟨scheme, rest⟩, -, ⟨authority, path⟩, hhierarchy, heq⟩ := h
  cases heq
  exact ⟨⟨_, rest, hhierarchy⟩, rfl⟩

theorem isUnmarked_of_ofText? {text : String} {u : Url} {port : Nat} (h : ofText? text = some u)
    (hport : usualPort? u.scheme = some port) : u.IsUnmarked := by
  obtain ⟨⟨last, rest, hhierarchy⟩, -⟩ := ofText?_eq_some h
  obtain ⟨hauthority, hpath⟩ := unmarked_of_readHierarchy? hport hhierarchy
  exact ⟨mark_not_mem_of_usualPort? hport, hauthority, hpath⟩

/-! ## Texts -/

theorem Authority.IsUnmarked.text {a : Authority} (h : a.IsUnmarked) : '?' ∉ a.text := by
  have hport : ∀ n, '?' ∉ Nat.toDigits 10 n := mark_not_mem_toDigits (by omega)
  have huser : '?' ∉ a.user.text := by
    unfold UserInfo.text
    split
    · exact List.not_mem_nil
    · split <;> simp [h.name, h.password]
  unfold Authority.text
  split <;> simp [huser, h.host, hport]

theorem IsUnmarked.dropUser {u : Url} (h : u.IsUnmarked) : u.dropUser.IsUnmarked where
  scheme := h.scheme
  authority a ha := by
    obtain ⟨a', ha', rfl⟩ := Option.map_eq_some_iff.mp ha
    have hauthority := h.authority a' ha'
    split
    · exact ⟨List.not_mem_nil, List.not_mem_nil, hauthority.host⟩
    · exact hauthority
  path := h.path

theorem IsUnmarked.addParams {u : Url} (h : u.IsUnmarked) (params : List (String × String)) :
    (u.addParams params).IsUnmarked :=
  ⟨h.scheme, h.authority, h.path⟩

/-- What is asked for over HTTP has a usual port. -/
theorem exists_usualPort_of_isHttp {u : Url} (h : u.isHttp = true) :
    ∃ port, usualPort? u.scheme = some port := by
  simp only [isHttp, Bool.and_eq_true, Bool.or_eq_true, beq_iff_eq] at h
  obtain ⟨⟨hscheme | hscheme, -⟩, -⟩ := h
  · exact ⟨80, by rw [hscheme]; rfl⟩
  · exact ⟨443, by rw [hscheme]; rfl⟩

/-- The first question mark of the text is in front of the query. -/
theorem IsUnmarked.target_eq {u : Url} (h : u.IsUnmarked) {query : List Char}
    (hquery : u.query = some query) :
    ∃ front, '?' ∉ front ∧ u.target = front ++ '?' :: query := by
  refine ⟨u.scheme.toList ++ ':' :: u.authorityText ++ u.path, ?_, ?_⟩
  · have hauthority : '?' ∉ u.authorityText := by
      unfold authorityText
      split
      · next a ha => exact (h.authority a ha).text
      · split <;> simp
    simp [h.scheme, hauthority, h.path]
  · rw [target, hquery]

end PagedQuery.Url
