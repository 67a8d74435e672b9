import ListenerOperator.Endpoint

/-!
# Endpoints

An endpoint is accepted by a copy of it in small letters, but the protocol is cut from the
endpoint as it was given. The server then knows a protocol in small letters only, and the small
letter i has a capital that is no ASCII character.
-/

namespace ListenerOperator

open Interaction

/-- A text is cut at the first separator. -/
theorem cut_append {first : Char} {separator before after : List Char}
    (absent : first ∉ before) :
    cut (first :: separator) (before ++ (first :: separator) ++ after) = some (before, after) := by
  induction before with
  | nil => simp [cut]
  | cons c before ih =>
    have different : first ≠ c := fun same => absent (by simp [same])
    have later := ih fun listed => absent (List.mem_cons_of_mem _ listed)
    simp only [List.cons_append] at later ⊢
    rw [cut, if_neg (by simp [different]), later]
    rfl

/-- The separator is mapped to itself and comes from itself only. -/
theorem CaseMapping.separator (cases : CaseMapping) {text : List Char} :
    text.map cases.toLower = "://".toList ↔ text = "://".toList := by
  have colon : ∀ c, cases.toLower c = ':' ↔ c = ':' := fun c =>
    cases.sign (by decide) (by decide) (by decide)
  have slash : ∀ c, cases.toLower c = '/' ↔ c = '/' := fun c =>
    cases.sign (by decide) (by decide) (by decide)
  show text.map cases.toLower = [':', '/', '/'] ↔ text = [':', '/', '/']
  constructor
  · intro mapped
    obtain ⟨c, rest, rfl, first, others⟩ := List.map_eq_cons_iff.mp mapped
    obtain ⟨d, last, rfl, second, ending⟩ := List.map_eq_cons_iff.mp others
    obtain ⟨e, none, rfl, third, nothing⟩ := List.map_eq_cons_iff.mp ending
    obtain rfl := List.map_eq_nil_iff.mp nothing
    rw [(colon c).mp first, (slash d).mp second, (slash e).mp third]
  · rintro rfl
    simp [(colon ':').mpr rfl, (slash '/').mpr rfl]

/-- The copy in small letters starts with a protocol and the separator exactly if the text starts
with something that is mapped to the protocol, and the separator. -/
theorem CaseMapping.lower_isPrefixOf (cases : CaseMapping) (proto text : List Char) :
    (proto ++ "://".toList).isPrefixOf (text.map cases.toLower) = true ↔
      ∃ scheme rest, text = scheme ++ "://".toList ++ rest ∧
        scheme.map cases.toLower = proto := by
  rw [List.isPrefixOf_iff_prefix]
  constructor
  · rintro ⟨tail, whole⟩
    obtain ⟨start, rest, rfl, mapped, -⟩ := List.map_eq_append_iff.mp whole.symm
    obtain ⟨scheme, separator, rfl, spelled, separated⟩ := List.map_eq_append_iff.mp mapped
    rw [cases.separator.mp separated]
    exact ⟨scheme, rest, rfl, spelled⟩
  · rintro ⟨scheme, rest, rfl, rfl⟩
    refine ⟨rest.map cases.toLower, ?_⟩
    rw [List.map_append, List.map_append, cases.separator.mpr rfl]

/-- What is mapped to letters has no colon. -/
theorem CaseMapping.colon_not_mem (cases : CaseMapping) {scheme proto : List Char}
    (spelled : scheme.map cases.toLower = proto) (letters : ':' ∉ proto) : ':' ∉ scheme := by
  intro listed
  have colon : cases.toLower ':' = ':' :=
    (cases.sign (by decide) (by decide) (by decide)).mpr rfl
  apply letters
  rw [← spelled, ← colon]
  exact List.mem_map_of_mem listed

/-- A text that is mapped to the name of a protocol. -/
def CaseMapping.Names (cases : CaseMapping) (scheme : String) : Prop :=
  scheme.toList.map cases.toLower = "unix".toList ∨ scheme.toList.map cases.toLower = "tcp".toList

/-- A text whose copy in small letters starts with a protocol and the separator. -/
theorem CaseMapping.accepted_iff (cases : CaseMapping) (ep : String) :
    ("unix://".toList.isPrefixOf (ep.toList.map cases.toLower) = true ∨
      "tcp://".toList.isPrefixOf (ep.toList.map cases.toLower) = true) ↔
      ∃ scheme rest, ep = scheme ++ "://" ++ rest ∧ cases.Names scheme := by
  have unix := cases.lower_isPrefixOf "unix".toList ep.toList
  have tcp := cases.lower_isPrefixOf "tcp".toList ep.toList
  rw [show "unix://".toList = "unix".toList ++ "://".toList by decide,
    show "tcp://".toList = "tcp".toList ++ "://".toList by decide, unix, tcp]
  constructor
  · rintro (⟨scheme, rest, whole, named⟩ | ⟨scheme, rest, whole, named⟩)
    · refine ⟨String.ofList scheme, String.ofList rest, ?_, .inl (by simpa using named)⟩
      exact String.toList_injective (by simpa using whole)
    · refine ⟨String.ofList scheme, String.ofList rest, ?_, .inr (by simpa using named)⟩
      exact String.toList_injective (by simpa using whole)
  · rintro ⟨scheme, rest, rfl, named | named⟩
    · exact .inl ⟨scheme.toList, rest.toList, by simp, named⟩
    · exact .inr ⟨scheme.toList, rest.toList, by simp, named⟩

/-- The text is cut after the name of the protocol, also if the separator occurs once more. -/
theorem CaseMapping.Names.cut {cases : CaseMapping} {scheme : String}
    (named : cases.Names scheme) (rest : String) :
    ListenerOperator.cut "://".toList (scheme ++ "://" ++ rest).toList =
      some (scheme.toList, rest.toList) := by
  have absent : ':' ∉ scheme.toList := by
    obtain unix | tcp := named
    · exact cases.colon_not_mem unix (by decide)
    · exact cases.colon_not_mem tcp (by decide)
  rw [String.toList_append, String.toList_append]
  exact cut_append absent

/-- What is accepted, and what is returned for it: the two sides of the first separator, of which
the first is mapped to the name of a protocol. -/
theorem parseEndpoint_eq_ok (cases : CaseMapping) (ep proto addr : String) :
    parseEndpoint cases ep = .ok (proto, addr) ↔
      ep = proto ++ "://" ++ addr ∧ addr ≠ "" ∧ cases.Names proto := by
  have nonempty : addr.toList ≠ [] ↔ addr ≠ "" := by simp
  unfold parseEndpoint
  constructor
  · intro parsed
    by_cases accepted : "unix://".toList.isPrefixOf (ep.toList.map cases.toLower) = true ∨
        "tcp://".toList.isPrefixOf (ep.toList.map cases.toLower) = true
    · obtain ⟨scheme, rest, rfl, named⟩ := (cases.accepted_iff ep).mp accepted
      rw [if_pos accepted, named.cut rest] at parsed
      by_cases given : rest.toList ≠ []
      · simp only [if_pos given, Except.ok.injEq, Prod.mk.injEq, String.ofList_toList] at parsed
        obtain ⟨rfl, rfl⟩ := parsed
        exact ⟨rfl, nonempty.mp given, named⟩
      · simp [given, errorText] at parsed
    · rw [if_neg accepted] at parsed
      simp [errorText] at parsed
  · rintro ⟨rfl, given, named⟩
    rw [if_pos ((cases.accepted_iff _).mpr ⟨proto, addr, rfl, named⟩), named.cut addr]
    simp [nonempty.mpr given]

/-- A text spells the name of a protocol: each letter small or capital. -/
def Spells (proto scheme : String) : Prop :=
  List.Forall₂ (fun c small => c = small ∨ c = small.toUpper) scheme.toList proto.toList

/-- An endpoint: the name of a protocol in small or capital letters, the separator, and an
address. -/
def IsEndpoint (ep proto addr : String) : Prop :=
  ∃ scheme, Spells proto scheme ∧ ep = scheme ++ "://" ++ addr ∧ addr ≠ ""

/-- Listen on a unix socket: its path is absolute, and a stale socket is removed first. -/
def listenUnix (addr : String) : ServerProg Unit := do
  explained "failed to remove existing unix socket: " (removeUnixSocket ("/" ++ addr))
  listenOn "unix" ("/" ++ addr)

/-- A text is parsed as it reads: it is accepted exactly if it is an endpoint, with its address
and with the name of its protocol in small letters, and the server listens on it accordingly. -/
structure Usable (cases : CaseMapping) (ep : String) : Prop where
  accepted : (∃ proto addr, parseEndpoint cases ep = .ok (proto, addr)) ↔
    ∃ addr, IsEndpoint ep "unix" addr ∨ IsEndpoint ep "tcp" addr
  parsed : ∀ {proto addr}, parseEndpoint cases ep = .ok (proto, addr) →
    (proto = "unix" ∨ proto = "tcp") ∧ IsEndpoint ep proto addr
  unix : ∀ {addr}, IsEndpoint ep "unix" addr →
    createSocketListener cases ep = listenUnix addr
  tcp : ∀ {addr}, IsEndpoint ep "tcp" addr →
    createSocketListener cases ep = listenOn "tcp" addr

/-- What spells letters is mapped to them. -/
theorem Spells.lower (cases : CaseMapping) {proto scheme : String} (spelled : Spells proto scheme)
    (letters : ∀ small ∈ proto.toList, 'a' ≤ small ∧ small ≤ 'z') :
    scheme.toList.map cases.toLower = proto.toList := by
  unfold Spells at spelled
  generalize scheme.toList = text at spelled ⊢
  generalize proto.toList = name at spelled letters ⊢
  induction spelled with
  | nil => rfl
  | @cons c small before after same _ ih =>
    have range := letters small (by simp)
    have mapped : cases.toLower c = small :=
      (cases.letter range.1 range.2).mpr (same.imp_right .inl)
    have later := ih fun other listed => letters other (List.mem_cons_of_mem _ listed)
    rw [List.map_cons, mapped, later]

/-- The name of a protocol in small letters spells itself. -/
theorem Spells.refl (proto : String) : Spells proto proto :=
  List.forall₂_same.mpr fun _ _ => .inl rfl

/-- What spells the name of a protocol is mapped to it. -/
theorem Spells.names (cases : CaseMapping) {proto scheme : String} (spelled : Spells proto scheme)
    (known : proto = "unix" ∨ proto = "tcp") : cases.Names scheme := by
  obtain rfl | rfl := known
  · exact .inl (spelled.lower cases (by simp))
  · exact .inr (spelled.lower cases (by simp))

/-- The two sides of the first separator are determined by the text. -/
theorem CaseMapping.Names.unique {cases : CaseMapping} {scheme other rest last : String}
    (named : cases.Names scheme) (again : cases.Names other)
    (same : scheme ++ "://" ++ rest = other ++ "://" ++ last) : scheme = other ∧ rest = last := by
  have parts := (named.cut rest).symm.trans ((congrArg _ (congrArg _ same)).trans (again.cut last))
  simp only [Option.some.injEq, Prod.mk.injEq] at parts
  exact ⟨String.toList_injective parts.1, String.toList_injective parts.2⟩

/-- What the server does for an accepted text. -/
theorem createSocketListener_parsed {cases : CaseMapping} {ep proto addr : String}
    (parsed : parseEndpoint cases ep = .ok (proto, addr)) :
    createSocketListener cases ep = if proto = "unix" then listenUnix addr
      else listenOn proto addr := by
  unfold createSocketListener
  rw [parsed]
  by_cases unix : proto = "unix"
  · subst unix
    rfl
  · show (if proto = "unix" then _ else _) = _
    rw [if_neg unix, if_neg unix]

/-- A text is parsed as it reads exactly if the protocol it names, with whatever characters are
mapped to its letters, is written in small letters. -/
theorem parseEndpoint_usable_iff (cases : CaseMapping) (ep : String) :
    Usable cases ep ↔ ∀ scheme addr, ep = scheme ++ "://" ++ addr → addr ≠ "" →
      cases.Names scheme → scheme = "unix" ∨ scheme = "tcp" := by
  constructor
  · rintro usable scheme addr written given named
    exact (usable.parsed ((parseEndpoint_eq_ok cases ep scheme addr).mpr
      ⟨written, given, named⟩)).1
  · intro small
    have parsed : ∀ {proto addr}, parseEndpoint cases ep = .ok (proto, addr) →
        (proto = "unix" ∨ proto = "tcp") ∧ IsEndpoint ep proto addr := by
      intro proto addr parsed
      obtain ⟨written, given, named⟩ := (parseEndpoint_eq_ok cases ep proto addr).mp parsed
      exact ⟨small proto addr written given named, proto, .refl proto, written, given⟩
    -- an endpoint is accepted, and then its protocol is in small letters by assumption
    have read : ∀ {proto addr}, proto = "unix" ∨ proto = "tcp" → IsEndpoint ep proto addr →
        parseEndpoint cases ep = .ok (proto, addr) := by
      rintro proto addr known ⟨scheme, spelled, written, given⟩
      have named := spelled.names cases known
      have found := small scheme addr written given named
      have same : scheme = proto := by
        have length := spelled.length_eq
        obtain rfl | rfl := known <;> obtain rfl | rfl := found <;> simp at length ⊢
      subst same
      exact (parseEndpoint_eq_ok cases ep scheme addr).mpr ⟨written, given, named⟩
    refine ⟨⟨?_, ?_⟩, parsed, fun endpoint => ?_, fun endpoint => ?_⟩
    · rintro ⟨proto, addr, accepted⟩
      obtain ⟨rfl | rfl, endpoint⟩ := parsed accepted
      · exact ⟨addr, .inl endpoint⟩
      · exact ⟨addr, .inr endpoint⟩
    · rintro ⟨addr, unix | tcp⟩
      · exact ⟨_, _, read (.inl rfl) unix⟩
      · exact ⟨_, _, read (.inr rfl) tcp⟩
    · rw [createSocketListener_parsed (read (.inl rfl) endpoint), if_pos rfl]
    · rw [createSocketListener_parsed (read (.inr rfl) endpoint), if_neg (by decide)]

/-- A capital ASCII letter is moved by 32, every other character is left as it is. -/
theorem toNat_toLower (c : Char) :
    c.toLower.toNat = if 65 ≤ c.toNat ∧ c.toNat ≤ 90 then c.toNat + 32 else c.toNat := by
  unfold Char.toLower
  split
  next capital =>
    have range : 65 ≤ c.toNat ∧ c.toNat ≤ 90 := capital
    rw [if_pos range]
    show (c.val + 32).toNat = c.val.toNat + 32
    have bound : c.val.toNat ≤ 90 := range.2
    rw [UInt32.toNat_add]
    show (c.val.toNat + 32) % 2 ^ 32 = _
    omega
  next other =>
    have outside : ¬ (65 ≤ c.toNat ∧ c.toNat ≤ 90) := other
    rw [if_neg outside]

/-- A small ASCII letter is moved back. -/
theorem toNat_toUpper {c : Char} (low : 'a' ≤ c) (high : c ≤ 'z') :
    c.toUpper.toNat = c.toNat - 32 := by
  unfold Char.toUpper
  have first : 97 ≤ c.val.toNat := low
  have last : c.val.toNat ≤ 122 := high
  rw [dif_pos ⟨low, high⟩]
  show (c.val + 4294967264).toNat = c.val.toNat - 32
  rw [UInt32.toNat_add]
  show (c.val.toNat + 4294967264) % 2 ^ 32 = _
  omega

/-- A small ASCII letter comes from itself and from its capital. -/
theorem toLower_eq_small {c small : Char} (low : 'a' ≤ small) (high : small ≤ 'z') :
    c.toLower = small ↔ c = small ∨ c = small.toUpper := by
  have first : 97 ≤ small.toNat := low
  have last : small.toNat ≤ 122 := high
  rw [← Char.toNat_inj, ← Char.toNat_inj, ← Char.toNat_inj, toNat_toLower, toNat_toUpper low high]
  split <;> omega

/-- A character that is mapped to no other by the ASCII tables comes from itself only. -/
theorem toLower_eq_other {c other : Char} (small : ¬ ('a' ≤ other ∧ other ≤ 'z'))
    (capital : ¬ ('A' ≤ other ∧ other ≤ 'Z')) : c.toLower = other ↔ c = other := by
  have notSmall : ¬ (97 ≤ other.toNat ∧ other.toNat ≤ 122) := small
  have notCapital : ¬ (65 ≤ other.toNat ∧ other.toNat ≤ 90) := capital
  rw [← Char.toNat_inj, ← Char.toNat_inj, toNat_toLower]
  split <;> omega

/-- A character beyond the ASCII characters is none of them. -/
theorem ne_of_ascii {c other : Char} (beyond : 128 ≤ c.toNat) (ascii : other.toNat < 128) :
    c ≠ other := by
  rintro rfl
  omega

/-- The case mapping of the ASCII letters, the capital i with a dot and the sign of the unit
kelvin, with every other character left as it is: it has the part of the tables that is used. -/
def CaseMapping.ascii : CaseMapping where
  toLower c := if c = '\u0130' then 'i' else if c = '\u212a' then 'k' else c.toLower
  letter := by
    intro c small low high
    have last : small.toNat ≤ 122 := high
    have upper : small.toUpper.toNat < 128 := by
      rw [toNat_toUpper low high]
      omega
    have beyond : ∀ {c : Char}, 128 ≤ c.toNat → c ≠ small ∧ c ≠ small.toUpper := fun wide =>
      ⟨ne_of_ascii wide (by omega), ne_of_ascii wide upper⟩
    by_cases dotted : c = '\u0130'
    · subst dotted
      simp [beyond (show 128 ≤ '\u0130'.toNat by decide), eq_comm]
    · by_cases kelvin : c = '\u212a'
      · subst kelvin
        simp [beyond (show 128 ≤ '\u212a'.toNat by decide), eq_comm]
      · simp [dotted, kelvin, toLower_eq_small low high]
  sign := by
    intro c other ascii small capital
    have narrow : other.toNat < 128 := ascii
    have letter : ∀ {c : Char}, 'a' ≤ c ∧ c ≤ 'z' → c ≠ other := fun range same =>
      small (same ▸ range)
    by_cases dotted : c = '\u0130'
    · subst dotted
      simp [letter (show 'a' ≤ 'i' ∧ 'i' ≤ 'z' by decide),
        ne_of_ascii (show 128 ≤ '\u0130'.toNat by decide) narrow]
    · by_cases kelvin : c = '\u212a'
      · subst kelvin
        simp [letter (show 'a' ≤ 'k' ∧ 'k' ≤ 'z' by decide),
          ne_of_ascii (show 128 ≤ '\u212a'.toNat by decide) narrow]
      · simp [dotted, kelvin, toLower_eq_other small capital]

/-- An endpoint in small letters is parsed as it reads. -/
theorem smallUnix_usable : Usable .ascii "unix:///csi/csi.sock" := by
  refine (parseEndpoint_usable_iff .ascii "unix:///csi/csi.sock").mpr ?_
  intro scheme addr written _ named
  have unix : CaseMapping.ascii.Names "unix" := .inl (by decide)
  have same : "unix" ++ "://" ++ "/csi/csi.sock" = scheme ++ "://" ++ addr :=
    (show "unix" ++ "://" ++ "/csi/csi.sock" = "unix:///csi/csi.sock" by decide).trans written
  exact .inl (unix.unique named same).1.symm

/-- With a capital in the name of the protocol the server asks for a network of that name, with a
path that has no slash before it and no socket removed; and a name with a character that is no
ASCII letter is accepted. -/
theorem capitalUnix_unusable :
    IsEndpoint "Unix:///csi/csi.sock" "unix" "/csi/csi.sock" ∧
    createSocketListener .ascii "Unix:///csi/csi.sock" = listenOn "Unix" "/csi/csi.sock" ∧
    ¬ Usable .ascii "Unix:///csi/csi.sock" ∧
    parseEndpoint .ascii "unİx:///csi/csi.sock" = .ok ("unİx", "/csi/csi.sock") ∧
    ¬ Usable .ascii "unİx:///csi/csi.sock" := by
  have capital : parseEndpoint .ascii "Unix:///csi/csi.sock" = .ok ("Unix", "/csi/csi.sock") :=
    (parseEndpoint_eq_ok _ _ _ _).mpr ⟨by decide, by decide, .inl (by decide)⟩
  have dotted : parseEndpoint .ascii "unİx:///csi/csi.sock" = .ok ("unİx", "/csi/csi.sock") :=
    (parseEndpoint_eq_ok _ _ _ _).mpr ⟨by decide, by decide, .inl (by decide)⟩
  refine ⟨⟨"Unix", ?_, by decide, by decide⟩, ?_, fun usable => ?_, dotted, fun usable => ?_⟩
  · exact .cons (.inr rfl) (.cons (.inl rfl) (.cons (.inl rfl) (.cons (.inl rfl) .nil)))
  · rw [createSocketListener_parsed capital, if_neg (by decide)]
  · exact absurd (usable.parsed capital).1 (by decide)
  · exact absurd (usable.parsed dotted).1 (by decide)

end ListenerOperator
