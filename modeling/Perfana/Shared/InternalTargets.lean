import Perfana.Shared.UrlValidation

/-!
# URLs of internal hosts

Which internal hosts the validators of URLs let pass, and which other hosts they take for internal.

* `validateUrl_isValid`, `validateExternalUrl_isValid`: what is accepted without options;
* `isMissed_iff`, `isMissedExternal_iff`: the internal hosts that each of the validators lets pass;
* `blocksInternalTargets_iff`: of a URL they reject every internal host, and accept every domain
  that is not listed, if and only if its host is not one of those, nor a domain that is taken for a
  private address (`IsJudgedRightly`).
-/

namespace Perfana.UrlValidation

/-! ## Internal hosts -/

/-- A loopback, unspecified, private or link-local address. -/
def isInternalIPv4 (a b c d : ℕ) : Bool :=
  a = 127 || (a = 0 && b = 0 && c = 0 && d = 0) || a = 10 || (a = 172 && 16 ≤ b && b ≤ 31) ||
    (a = 192 && b = 168) || (a = 169 && b = 254)

/-- The address is mapped from an internal IPv4 address. -/
def IPv6.isMappedInternal (address : IPv6) : Bool :=
  match address.pieces.drop 6 with
  | [high, low] =>
    address.pieces.take 6 = [0, 0, 0, 0, 0, 0xffff] &&
      isInternalIPv4 (high / 256) (high % 256) (low / 256) (low % 256)
  | _ => false

def IPv6.isLoopback (address : IPv6) : Bool := address.pieces = [0, 0, 0, 0, 0, 0, 0, 1]

def IPv6.isUnspecified (address : IPv6) : Bool := address.pieces = [0, 0, 0, 0, 0, 0, 0, 0]

/-- An address in `fe80::/10`. -/
def IPv6.isLinkLocal (address : IPv6) : Bool := 0xfe80 ≤ address.first && address.first ≤ 0xfebf

/-- An address in `fc00::/7`. -/
def IPv6.isUniqueLocal (address : IPv6) : Bool := 0xfc00 ≤ address.first && address.first ≤ 0xfdff

/-- A loopback, unspecified, link-local or unique local address, or one that is mapped from an
    internal IPv4 address. -/
def IPv6.isInternal (address : IPv6) : Bool :=
  address.isLoopback || address.isUnspecified || address.isLinkLocal || address.isUniqueLocal ||
    address.isMappedInternal

/-- The local host and the names of metadata services. -/
def internalNames : List Str :=
  ["localhost", "metadata.google.internal", "metadata.goog"].map String.toList

/-- An internal name with the dot of the root. -/
def isRooted (name : Str) : Bool := internalNames.any fun internal => name = internal ++ ['.']

/-- An internal name, with or without the dot of the root. -/
def isInternalName (name : Str) : Bool := internalNames.contains name || isRooted name

/-- The host is internal. -/
def Host.isInternal : Host → Bool
  | .domain d => isInternalName d.name
  | .ipv4 a b c d => isInternalIPv4 a b c d
  | .ipv6 address => address.isInternal
  | .other text => isInternalName text

/-- What both validators promise of a URL, as the text that each of them parses: neither lets an
    internal host pass, and one accepts any domain of the web that it has not listed. -/
structure BlocksInternalTargets (parser : UrlParser) (urlString : Str) : Prop where
  rejects : ∀ url ∈ parser.parse (Text.trim urlString), url.host.isInternal = true →
    (validateUrl parser urlString {}).isValid = false
  rejectsExternal : ∀ url ∈ parser.parse urlString, url.host.isInternal = true →
    (validateExternalUrl parser urlString {}).isValid = false
  accepts : ∀ url ∈ parser.parse (Text.trim urlString), url.protocol ∈ ["http:", "https:"] →
    ∀ d, url.host = .domain d → isBlockedHostname d.name = false →
      (validateUrl parser urlString {}).isValid = true

/-! ## Hosts that are judged wrongly -/

/-- The internal hosts that `validateUrl` does not know: names with the dot of the root, link-local
    addresses but for those that begin with `fe80`, and mapped addresses. -/
def Host.isMissed : Host → Bool
  | .domain d => isRooted d.name
  | .ipv6 address => (address.isLinkLocal && address.first ≠ 0xfe80) || address.isMappedInternal
  | _ => false

/-- Those that `validateExternalUrl` does not know: names with the dot of the root, and all IPv6
    addresses but for the loopback address. -/
def Host.isMissedExternal : Host → Bool
  | .domain d => isRooted d.name
  | .ipv6 address => address.isInternal && !address.isLoopback
  | _ => false

/-- A domain that is taken for a private address: its labels are four numbers that are those of a
    reserved range, or they are not four and it begins as a unique local address does. -/
def Domain.looksPrivate (d : Domain) : Bool :=
  match labels d.name with
  | [first, second, third, fourth] =>
    match [first, second, third, fourth].mapM fun part => octet (JsNumber.toNumber part) with
    | some (first :: second :: third :: _) => isReserved first second third
    | _ => false
  | _ => "fc".toList.isPrefixOf d.name || "fd".toList.isPrefixOf d.name

/-- The host of the URL, if it is one of the web, is not judged wrongly. -/
structure IsJudgedRightly (parser : UrlParser) (urlString : Str) : Prop where
  not_missed : ∀ url ∈ parser.parse (Text.trim urlString), url.protocol ∈ ["http:", "https:"] →
    url.host.isMissed = false
  not_missedExternal : ∀ url ∈ parser.parse urlString, url.protocol ∈ ["http:", "https:"] →
    url.host.isMissedExternal = false
  not_looksPrivate : ∀ url ∈ parser.parse (Text.trim urlString),
    url.protocol ∈ ["http:", "https:"] → ∀ d, url.host = .domain d →
      isBlockedHostname d.name = false → d.looksPrivate = false


/-! ## Addresses of internal hosts -/

theorem isReserved_of_isInternalIPv4 {a b c d : ℕ} (h : isInternalIPv4 a b c d = true) :
    isReserved a b c = true := by
  simp only [isInternalIPv4, Bool.or_eq_true, Bool.and_eq_true, decide_eq_true_eq] at h
  simp only [isReserved, Bool.or_eq_true, Bool.and_eq_true, decide_eq_true_eq]
  rcases h with ((((h | h) | h) | h) | h) | h
  · simp [h]
  · simp [h]
  · simp [h]
  · have hlow : (16 : ℚ) ≤ b := by exact_mod_cast h.1.2
    have hhigh : (b : ℚ) ≤ 31 := by exact_mod_cast h.2
    simp [h.1.1, hlow, hhigh]
  · simp [h]
  · simp [h]

theorem head_hex_of_isInternalIPv4 {high low : Piece}
    (h : isInternalIPv4 (high / 256) (high % 256) (low / 256) (low % 256) = true) :
    (hex high).head? ≠ some 'f' := by
  have hdigits : ∀ a ∈ [127, 10, 172, 192, 169], ∀ b < 256,
      (Nat.toDigits 16 (256 * a + b)).head? ≠ some 'f' := by decide +kernel
  simp only [isInternalIPv4, Bool.or_eq_true, Bool.and_eq_true, decide_eq_true_eq] at h
  by_cases hzero : high.val = 0
  · rw [hex, hzero]
    decide
  · rw [hex, ← Nat.div_add_mod high.val 256]
    refine hdigits _ ?_ _ (Nat.mod_lt _ (by decide))
    simp only [List.mem_cons, List.not_mem_nil, or_false]
    omega

/-! ## What is rejected -/

theorem validateUrl_isValid {parser : UrlParser} {urlString : Str} {url : Url}
    (hparse : parser.parse (Text.trim urlString) = some url) :
    (validateUrl parser urlString {}).isValid = true ↔
      url.protocol ∈ ["http:", "https:"] ∧ isBlockedHostname url.host.hostname = false ∧
        isPrivateIP (toLowerCase url.host.hostname) = false := by
  have htrim : Text.trim urlString ≠ [] := by
    intro heq
    rw [heq, parser.parse_nil] at hparse
    cases hparse
  have hne : urlString ≠ [] := by
    rintro rfl
    exact htrim rfl
  rw [validateUrl, if_neg hne, if_neg htrim, hparse]
  simp only [isBlockedHostname, Bool.or_eq_false_iff, List.contains_eq_mem, decide_eq_false_iff_not,
    ALLOWED_PROTOCOLS, List.any_nil, Bool.false_eq_true, if_false, if_true]
  split_ifs with hprotocol hlocal hmetadata hsuffix hprivate
  · exact iff_of_false Bool.false_ne_true fun h => h.2.1.1.1 hlocal
  · exact iff_of_false Bool.false_ne_true fun h => h.2.1.1.2 hmetadata
  · exact iff_of_false Bool.false_ne_true fun h => Bool.eq_false_iff.1 h.2.1.2 hsuffix
  · exact iff_of_false Bool.false_ne_true fun h => Bool.eq_false_iff.1 h.2.2 hprivate
  · exact iff_of_true rfl ⟨hprotocol, ⟨⟨hlocal, hmetadata⟩, Bool.eq_false_iff.2 hsuffix⟩,
      Bool.eq_false_iff.2 hprivate⟩
  · exact iff_of_false Bool.false_ne_true fun h => hprotocol h.1

theorem validateExternalUrl_isValid {parser : UrlParser} {urlString : Str} {url : Url}
    (hparse : parser.parse urlString = some url) :
    (validateExternalUrl parser urlString {}).isValid = true ↔
      url.protocol ∈ ["http:", "https:"] ∧
        toLowerCase url.host.hostname ∉ BLOCKED_HOSTNAMES ∧
        (BLOCKED_IP_PATTERNS.any fun pattern =>
          pattern.test (toLowerCase url.host.hostname)) = false := by
  rw [validateExternalUrl, hparse]
  simp only [ALLOWED_SCHEMES, Bool.false_and, Bool.false_eq_true, if_false, Option.getD_none,
    ne_eq, not_true, false_and]
  split_ifs with hprotocol hblocked hpattern
  · exact iff_of_false Bool.false_ne_true fun h => h.2.1 hblocked
  · exact iff_of_false Bool.false_ne_true fun h => Bool.eq_false_iff.1 h.2.2 hpattern
  · exact iff_of_true rfl ⟨hprotocol, hblocked, Bool.eq_false_iff.2 hpattern⟩
  · exact iff_of_false Bool.false_ne_true fun h => hprotocol h.1

/-- Of the hosts in brackets only the loopback address is on a list. -/
theorem serialize_of_isBlockedHostname {address : IPv6}
    (h : isBlockedHostname (Host.ipv6 address).hostname = true) :
    address.serialize = "::1".toList := by
  have hlower := @toLowerCase_hostname (.ipv6 address) (by simp)
  simp only [isBlockedHostname, hlower, Bool.or_eq_true, List.contains_eq_mem, decide_eq_true_eq,
    List.any_eq_true, List.isSuffixOf_iff_suffix] at h
  have hlocal : ∀ blocked ∈ BLOCKED_LOCALHOST_HOSTS, blocked.head? = some '[' →
      blocked = '[' :: ("::1".toList ++ [']']) := by decide
  have hmetadata : ∀ blocked ∈ BLOCKED_METADATA_HOSTS, blocked.head? ≠ some '[' := by decide
  have hsuffix : ∀ suffix ∈ BLOCKED_K8S_SUFFIXES, suffix ≠ [] ∧ suffix.getLast? ≠ some ']' := by
    decide
  rcases h with (h | h) | ⟨suffix, hmem, h⟩
  · exact List.append_cancel_right (List.cons.inj (hlocal _ h rfl)).2
  · exact absurd rfl (hmetadata _ h)
  · obtain ⟨hne, hlast⟩ := hsuffix suffix hmem
    have heq := h.getLast hne
    refine absurd ?_ hlast
    rw [List.getLast?_eq_getLast_of_ne_nil hne, heq]
    simp [Host.hostname]

/-- Of the hosts in brackets only the loopback address has a pattern. -/
theorem isBlockedExternal_ipv6 (address : IPv6) :
    toLowerCase (Host.ipv6 address).hostname ∉ BLOCKED_HOSTNAMES ∧
        (BLOCKED_IP_PATTERNS.any fun pattern =>
          pattern.test (toLowerCase (Host.ipv6 address).hostname)) = false ↔
      address.serialize ≠ "::1".toList := by
  have hlower := @toLowerCase_hostname (.ipv6 address) (by simp)
  have hblocked : ∀ blocked ∈ BLOCKED_HOSTNAMES, blocked.head? ≠ some '[' := by decide
  have htexts : ∀ pattern ∈ BLOCKED_IP_PATTERNS, ∀ text ∈ pattern.texts, text.head? = some '[' →
      pattern = .exactly "[::1]".toList := by decide +kernel
  have hne : ∀ pattern ∈ BLOCKED_IP_PATTERNS, [] ∉ pattern.texts := by decide +kernel
  have hpattern : ∀ pattern ∈ BLOCKED_IP_PATTERNS, ∀ rest : Str,
      pattern.test ('[' :: rest) = true → '[' :: rest = "[::1]".toList := by
    intro pattern hmem rest htest
    cases pattern with
    | exactly text =>
      have htext : '[' :: rest = text := of_decide_eq_true htest
      have heq := htexts _ hmem text (List.mem_singleton_self _) (htext ▸ rfl)
      rw [htext]
      exact HostPattern.exactly.inj heq
    | startsWith texts =>
      obtain ⟨text, htext, hstart⟩ := List.any_eq_true.1 htest
      cases text with
      | nil => exact absurd htext (hne _ hmem)
      | cons c text =>
        have hc := (List.cons_prefix_cons.1 (List.isPrefixOf_iff_prefix.1 hstart)).1
        cases htexts _ hmem _ htext (hc ▸ rfl)
  rw [hlower, and_iff_right fun h => absurd rfl (hblocked _ h), ← Bool.not_eq_true, not_iff_not,
    List.any_eq_true]
  constructor
  · rintro ⟨pattern, hmem, htest⟩
    exact List.append_cancel_right (List.cons.inj (hpattern pattern hmem _ htest)).2
  · intro htext
    refine ⟨.exactly "[::1]".toList, by decide, ?_⟩
    simp [HostPattern.test, Host.hostname, htext]

/-! ## Internal hosts that pass -/

theorem IPv6.pieces_of_isMappedInternal {address : IPv6} (h : address.isMappedInternal = true) :
    ∃ high low : Piece, address.pieces = [0, 0, 0, 0, 0, 0xffff, high, low] ∧
      isInternalIPv4 (high / 256) (high % 256) (low / 256) (low % 256) = true := by
  rw [IPv6.isMappedInternal] at h
  split at h
  · rename_i high low hdrop
    rw [Bool.and_eq_true, decide_eq_true_eq] at h
    refine ⟨high, low, ?_, h.2⟩
    rw [← List.take_append_drop 6 address.pieces, h.1, hdrop]
    rfl
  · cases h

theorem IPv6.not_isMappedInternal {address : IPv6} (h : address.first ≠ 0) :
    address.isMappedInternal = false := by
  rw [← Bool.not_eq_true]
  intro hmapped
  obtain ⟨high, low, hpieces, -⟩ := IPv6.pieces_of_isMappedInternal hmapped
  exact h (by rw [IPv6.first, hpieces]; rfl)

theorem IPv6.not_isLoopback (address : IPv6) (h : address.first ≠ 0) :
    ¬ address.isLoopback = true := by
  intro hloopback
  rw [IPv6.isLoopback, decide_eq_true_eq] at hloopback
  exact h (by rw [IPv6.first, hloopback]; rfl)

/-- `validateUrl` knows an internal address if it is private as a text, and the loopback address
    is told by its text. -/
theorem IPv6.of_isInternal {address : IPv6} (h : address.isInternal = true) :
    ((Host.ipv6 address).isMissed = false ↔ isPrivateText address.serialize) ∧
      (address.isLoopback = true ↔ address.serialize = "::1".toList) := by
  simp only [IPv6.isInternal, Bool.or_eq_true] at h
  rcases h with (((h | h) | h) | h) | h
  · -- The loopback address.
    obtain ⟨pieces, hlength⟩ := address
    obtain rfl : pieces = _ := of_decide_eq_true h
    have htext : IPv6.serialize ⟨[0, 0, 0, 0, 0, 0, 0, 1], hlength⟩ = "::1".toList := rfl
    exact ⟨iff_of_true rfl (.inl htext), iff_of_true rfl htext⟩
  · -- The unspecified address.
    obtain ⟨pieces, hlength⟩ := address
    obtain rfl : pieces = _ := of_decide_eq_true h
    have htext : IPv6.serialize ⟨[0, 0, 0, 0, 0, 0, 0, 0], hlength⟩ = "::".toList := rfl
    refine ⟨iff_of_true rfl (.inr (.inr (.inl htext))), iff_of_false Bool.false_ne_true ?_⟩
    rw [htext]
    decide
  · -- A link-local address is only known if it begins with `fe80`.
    have hrange := h
    simp only [IPv6.isLinkLocal, Bool.and_eq_true, decide_eq_true_eq] at hrange
    have hfirst : address.first ≠ 0 := by omega
    obtain ⟨rest, htext⟩ := address.serialize_eq hfirst
    refine ⟨?_, iff_of_false (address.not_isLoopback hfirst) ?_⟩
    · rw [htext, isPrivateText_linkLocal hrange.1 hrange.2, Host.isMissed, h,
        IPv6.not_isMappedInternal hfirst]
      simp [IPv6.first]
    · rw [htext]
      exact hex_append_ne
  · -- A unique local address is known.
    simp only [IPv6.isUniqueLocal, Bool.and_eq_true, decide_eq_true_eq] at h
    have hfirst : address.first ≠ 0 := by omega
    obtain ⟨rest, htext⟩ := address.serialize_eq hfirst
    refine ⟨?_, iff_of_false (address.not_isLoopback hfirst) ?_⟩
    · rw [htext, Host.isMissed, IPv6.not_isMappedInternal hfirst]
      refine iff_of_true ?_ (isPrivateText_uniqueLocal h.1 h.2)
      simp [IPv6.isLinkLocal]
      omega
    · rw [htext]
      exact hex_append_ne
  · -- A mapped address is not: its text has the pieces and not the octets.
    obtain ⟨high, low, hpieces, hinternal⟩ := IPv6.pieces_of_isMappedInternal h
    have htext := address.serialize_mapped hpieces
    have hloopback : ¬ address.isLoopback = true := by
      rw [IPv6.isLoopback, hpieces]
      simp
    refine ⟨iff_of_false ?_ ?_, iff_of_false hloopback ?_⟩
    · rw [Host.isMissed, h, Bool.or_true]
      exact Bool.true_eq_false_eq_False
    · rw [htext]
      exact not_isPrivateText_mapped (head_hex_of_isInternalIPv4 hinternal)
    · rw [htext]
      simp [mappedPrefix]

theorem isMissed_iff {host : Host} (hhost : ∀ text, host ≠ .other text)
    (h : host.isInternal = true) :
    isBlockedHostname host.hostname = false ∧ isPrivateIP (toLowerCase host.hostname) = false ↔
      host.isMissed = true := by
  cases host with
  | domain d =>
    have hnames : ∀ name ∈ internalNames, isBlockedHostname name = true ∧
        isBlockedHostname (name ++ ['.']) = false ∧ isRooted name = false ∧
        isPrivateIP (name ++ ['.']) = false := by decide +kernel
    rw [toLowerCase_hostname hhost]
    simp only [Host.isInternal, isInternalName, Bool.or_eq_true, List.contains_eq_mem,
      decide_eq_true_eq] at h
    rcases h with h | h
    · obtain ⟨hblocked, -, hrooted, -⟩ := hnames _ h
      simp [Host.isMissed, Host.hostname, hblocked, hrooted]
    · obtain ⟨name, hname, heq⟩ := List.any_eq_true.1 h
      obtain ⟨-, hblocked, -, hprivate⟩ := hnames _ hname
      have hd : d.name = name ++ ['.'] := of_decide_eq_true heq
      refine iff_of_true ?_ h
      rw [Host.hostname, hd]
      exact ⟨hblocked, hprivate⟩
  | ipv4 a b c d =>
    have hreserved := isReserved_of_isInternalIPv4 h
    rw [toLowerCase_hostname hhost, isPrivateIP_ipv4, hreserved]
    simp [Host.isMissed]
  | ipv6 address =>
    have hprivate := isPrivateIP_ipv6 address
    have hmissed := (IPv6.of_isInternal h).1
    rw [toLowerCase_hostname hhost, ← Bool.not_eq_true (isPrivateIP _), hprivate, ← hmissed,
      Bool.not_eq_false]
    refine and_iff_right_of_imp fun hm => ?_
    rw [← Bool.not_eq_true]
    intro hblocked
    have htext : isPrivateText address.serialize := .inl (serialize_of_isBlockedHostname hblocked)
    rw [hmissed.2 htext] at hm
    cases hm
  | other text => exact absurd rfl (hhost text)

/-- The pattern of a network is the start of the text of its addresses. -/
theorem matches_of_isInternalIPv4 {a b c d : Fin 256} (h : isInternalIPv4 a b c d = true) :
    (BLOCKED_IP_PATTERNS.any fun pattern => pattern.test (Host.ipv4 a b c d).hostname) = true := by
  simp only [isInternalIPv4, Bool.or_eq_true, Bool.and_eq_true, decide_eq_true_eq] at h
  have htext : (Host.ipv4 a b c d).hostname =
      decimal a ++ '.' :: (decimal b ++ '.' :: (decimal c ++ '.' :: decimal d)) := by
    simp [Host.hostname]
  have hstart : ∀ (texts : List Str) (text : Str), .startsWith texts ∈ BLOCKED_IP_PATTERNS →
      text ∈ texts → text <+: (Host.ipv4 a b c d).hostname →
      (BLOCKED_IP_PATTERNS.any fun pattern =>
        pattern.test (Host.ipv4 a b c d).hostname) = true := by
    intro texts text hmem hin hstarts
    refine List.any_eq_true.2 ⟨_, hmem, List.any_eq_true.2 ⟨text, hin, ?_⟩⟩
    exact List.isPrefixOf_iff_prefix.2 hstarts
  have hdecimal : ∀ {o : Fin 256} {n : ℕ}, o.val = n → decimal o = Nat.toDigits 10 n := by
    rintro o n rfl
    rfl
  rcases h with ((((ha | h) | ha) | h) | h) | h
  · refine hstart ["127.".toList] "127.".toList (by decide) (List.mem_singleton_self _) ?_
    rw [htext, hdecimal ha]
    exact ⟨_, rfl⟩
  · obtain ⟨⟨⟨ha, hb⟩, hc⟩, hd⟩ := h
    refine List.any_eq_true.2 ⟨.exactly "0.0.0.0".toList, by decide, ?_⟩
    rw [htext, hdecimal ha, hdecimal hb, hdecimal hc, hdecimal hd]
    rfl
  · refine hstart ["10.".toList] "10.".toList (by decide) (List.mem_singleton_self _) ?_
    rw [htext, hdecimal ha]
    exact ⟨_, rfl⟩
  · obtain ⟨⟨ha, hb⟩, hb'⟩ := h
    have hmem : b.val ∈ List.range' 16 16 := List.mem_range'_1.2 ⟨hb, by omega⟩
    refine hstart ((List.range' 16 16).map fun n => "172.".toList ++ Nat.toDigits 10 n ++ ['.'])
      _ (by decide) (List.mem_map.2 ⟨b.val, hmem, rfl⟩) ?_
    have h172 : Nat.toDigits 10 172 = "172".toList := by decide
    rw [htext, hdecimal ha, h172]
    exact ⟨decimal c ++ '.' :: decimal d, by simp [decimal]⟩
  · refine hstart ["192.168.".toList] "192.168.".toList (by decide) (List.mem_singleton_self _) ?_
    rw [htext, hdecimal h.1, hdecimal h.2]
    exact ⟨_, rfl⟩
  · refine hstart ["169.254.".toList] "169.254.".toList (by decide) (List.mem_singleton_self _) ?_
    rw [htext, hdecimal h.1, hdecimal h.2]
    exact ⟨_, rfl⟩

theorem isMissedExternal_iff {host : Host} (hhost : ∀ text, host ≠ .other text)
    (h : host.isInternal = true) :
    toLowerCase host.hostname ∉ BLOCKED_HOSTNAMES ∧
        (BLOCKED_IP_PATTERNS.any fun pattern =>
          pattern.test (toLowerCase host.hostname)) = false ↔
      host.isMissedExternal = true := by
  cases host with
  | domain d =>
    have hnames : ∀ name ∈ internalNames, isRooted name = false ∧
        (name ∈ BLOCKED_HOSTNAMES ∨
          (BLOCKED_IP_PATTERNS.any fun pattern => pattern.test name) = true) ∧
        name ++ ['.'] ∉ BLOCKED_HOSTNAMES ∧
        (BLOCKED_IP_PATTERNS.any fun pattern => pattern.test (name ++ ['.'])) = false := by
      decide +kernel
    rw [toLowerCase_hostname hhost]
    simp only [Host.isInternal, isInternalName, Bool.or_eq_true, List.contains_eq_mem,
      decide_eq_true_eq] at h
    rcases h with h | h
    · obtain ⟨hrooted, hblocked, -⟩ := hnames _ h
      refine iff_of_false (fun hnot => ?_) (by simp [Host.isMissedExternal, hrooted])
      exact hblocked.elim hnot.1 fun hpattern => Bool.eq_false_iff.1 hnot.2 hpattern
    · obtain ⟨name, hname, heq⟩ := List.any_eq_true.1 h
      obtain ⟨-, -, hblocked, hpattern⟩ := hnames _ hname
      have hd : d.name = name ++ ['.'] := of_decide_eq_true heq
      refine iff_of_true ?_ h
      rw [Host.hostname, hd]
      exact ⟨hblocked, hpattern⟩
  | ipv4 a b c d =>
    rw [toLowerCase_hostname hhost]
    have hmissed : ¬ (Host.ipv4 a b c d).isMissedExternal = true := Bool.false_ne_true
    have hmatches := matches_of_isInternalIPv4 h
    exact iff_of_false (fun hnot => Bool.eq_false_iff.1 hnot.2 hmatches) hmissed
  | ipv6 address =>
    rw [isBlockedExternal_ipv6, ne_eq, ← (IPv6.of_isInternal h).2]
    simp only [Host.isInternal] at h
    simp [Host.isMissedExternal, h]
  | other text => exact absurd rfl (hhost text)

theorem isInternal_of_isMissed {host : Host} (h : host.isMissed = true) :
    host.isInternal = true := by
  cases host with
  | domain d => exact Bool.or_eq_true_iff.2 (.inr h)
  | ipv4 a b c d => cases h
  | ipv6 address =>
    rw [Host.isMissed, Bool.or_eq_true, Bool.and_eq_true] at h
    rw [Host.isInternal, IPv6.isInternal]
    rcases h with h | h
    · simp [h.1]
    · simp [h]
  | other text => cases h

theorem isInternal_of_isMissedExternal {host : Host} (h : host.isMissedExternal = true) :
    host.isInternal = true := by
  cases host with
  | domain d => exact Bool.or_eq_true_iff.2 (.inr h)
  | ipv4 a b c d => cases h
  | ipv6 address => exact (Bool.and_eq_true_iff.1 h).1
  | other text => cases h

/-- A domain that is not on a list is taken for a private address if it looks like one. -/
theorem isPrivateIP_domain (d : Domain) : isPrivateIP d.name = d.looksPrivate := by
  have hlower := @toLowerCase_hostname (.domain d) (by simp)
  rw [Host.hostname] at hlower
  have hcolon : ':' ∉ d.name := fun h => (d.of_mem h).2.1 rfl
  have hprivate : isPrivateIPv6 isPrivateIP d.name =
      ("fc".toList.isPrefixOf d.name || "fd".toList.isPrefixOf d.name) := by
    have htext : ((toLowerCase d.name).filter fun c => c ≠ '[' ∧ c ≠ ']') = d.name := by
      rw [hlower, List.filter_eq_self]
      exact fun c hc => decide_eq_true (d.of_mem hc).2.2
    rw [Bool.eq_iff_iff, isPrivateIPv6_iff htext, isPrivateText, Bool.or_eq_true,
      List.isPrefixOf_iff_prefix, List.isPrefixOf_iff_prefix]
    have hne : ∀ text : Str, ':' ∈ text → d.name ≠ text := fun text hmem heq =>
      hcolon (heq ▸ hmem)
    have hnot : ∀ text : Str, ':' ∈ text → ¬ text <+: d.name := fun text hmem hstart =>
      hcolon (hstart.subset hmem)
    rw [or_iff_right (hne _ (by decide)), or_iff_right (hne _ (by decide)),
      or_iff_right (hne _ (by decide)), or_iff_right (hne _ (by decide)),
      or_iff_right (hnot _ (by decide))]
    exact or_congr_right (or_iff_left fun h => hnot mappedPrefix (by decide) h.1)
  rw [isPrivateIP_eq, unmapped_of_not_mem hlower hcolon, hprivate]
  rfl

/-- Both validators do what they promise of a URL if and only if its host is not judged wrongly. -/
theorem blocksInternalTargets_iff (parser : UrlParser) (urlString : Str) :
    BlocksInternalTargets parser urlString ↔ IsJudgedRightly parser urlString := by
  constructor
  · intro h
    refine ⟨fun url hurl hprotocol => ?_, fun url hurl hprotocol => ?_,
      fun url hurl hprotocol d hd hlisted => ?_⟩
    · rw [← Bool.not_eq_true]
      intro hmissed
      have hinternal := isInternal_of_isMissed hmissed
      have hvalid := (validateUrl_isValid hurl).2
        ⟨hprotocol, (isMissed_iff (url.host_ne_other hprotocol) hinternal).2 hmissed⟩
      exact Bool.false_ne_true ((h.rejects url hurl hinternal).symm.trans hvalid)
    · rw [← Bool.not_eq_true]
      intro hmissed
      have hinternal := isInternal_of_isMissedExternal hmissed
      have hvalid := (validateExternalUrl_isValid hurl).2
        ⟨hprotocol, (isMissedExternal_iff (url.host_ne_other hprotocol) hinternal).2 hmissed⟩
      exact Bool.false_ne_true ((h.rejectsExternal url hurl hinternal).symm.trans hvalid)
    · have hvalid := h.accepts url hurl hprotocol d hd hlisted
      obtain ⟨-, -, hprivate⟩ := (validateUrl_isValid hurl).1 hvalid
      rwa [toLowerCase_hostname (url.host_ne_other hprotocol), hd, Host.hostname,
        isPrivateIP_domain] at hprivate
  · intro h
    refine ⟨fun url hurl hinternal => ?_, fun url hurl hinternal => ?_,
      fun url hurl hprotocol d hd hlisted => ?_⟩
    · rw [← Bool.not_eq_true, validateUrl_isValid hurl]
      rintro ⟨hprotocol, hpassed⟩
      have hmissed := (isMissed_iff (url.host_ne_other hprotocol) hinternal).1 hpassed
      exact Bool.false_ne_true ((h.not_missed url hurl hprotocol).symm.trans hmissed)
    · rw [← Bool.not_eq_true, validateExternalUrl_isValid hurl]
      rintro ⟨hprotocol, hpassed⟩
      have hmissed := (isMissedExternal_iff (url.host_ne_other hprotocol) hinternal).1 hpassed
      exact Bool.false_ne_true ((h.not_missedExternal url hurl hprotocol).symm.trans hmissed)
    · rw [validateUrl_isValid hurl, toLowerCase_hostname (url.host_ne_other hprotocol), hd,
        Host.hostname, isPrivateIP_domain]
      exact ⟨hprotocol, hlisted, h.not_looksPrivate url hurl hprotocol d hd hlisted⟩

/-! ## URLs that are judged wrongly -/

def barcelona : Domain :=
  { name := "fcbarcelona.com".toList
    name_ne_nil := by decide
    isDomainChar_name := by decide
    not_endsInNumber := by decide }

def rootedLocalhost : Domain :=
  { name := "localhost.".toList
    name_ne_nil := by decide
    isDomainChar_name := by decide
    not_endsInNumber := by decide }

def mappedLoopback : IPv6 := ⟨[0, 0, 0, 0, 0, 0xffff, 0x7f00, 1], rfl⟩

def webUrl (host : Host) (h : ∀ text, host ≠ .other text) : Url := ⟨"http:", host, fun _ => h⟩

/-- What the parser of URLs makes of three of them. -/
def someUrls : UrlParser :=
  { parse := fun text =>
      if text = "http://[::ffff:127.0.0.1]/".toList then
        some (webUrl (.ipv6 mappedLoopback) (fun _ => Host.noConfusion))
      else if text = "http://localhost./".toList then
        some (webUrl (.domain rootedLocalhost) (fun _ => Host.noConfusion))
      else if text = "http://fcbarcelona.com/".toList then
        some (webUrl (.domain barcelona) (fun _ => Host.noConfusion))
      else none
    parse_nil := rfl }

theorem not_blocksInternalTargets :
    ¬ BlocksInternalTargets someUrls "http://[::ffff:127.0.0.1]/".toList ∧
      ¬ BlocksInternalTargets someUrls "http://localhost./".toList ∧
      ¬ BlocksInternalTargets someUrls "http://fcbarcelona.com/".toList := by
  refine ⟨fun h => ?_, fun h => ?_, fun h => ?_⟩
  · exact absurd (h.rejects _ rfl (by decide)) (by decide +kernel)
  · exact absurd (h.rejectsExternal _ rfl (by decide)) (by decide +kernel)
  · exact absurd (h.accepts _ rfl (by decide) barcelona rfl (by decide)) (by decide +kernel)

end Perfana.UrlValidation
