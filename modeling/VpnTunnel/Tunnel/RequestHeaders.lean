import VpnTunnel.Foundation.Dict
import VpnTunnel.Foundation.HttpFields
import VpnTunnel.Tunnel.Passage

namespace VpnTunnel.Tunnel

open VpnTunnel.Client
open VpnTunnel.Crypto
open VpnTunnel.Foundation
open VpnTunnel.Server

/-! The dictionaries that a browser's field lines become. -/

def proxyNames : List Bytes :=
  [encodeUtf8 "Proxy-Connection", encodeUtf8 "Proxy-Authorization"]

def agentName : Bytes := encodeUtf8 "User-Agent"

def agentField : Field := (agentName, encodeUtf8 userAgent)

/-- A name of the proxy's own fields, in any letter case. -/
def isProxyName (name : Bytes) : Bool := proxyNames.any (sameName name)

def isAgentName (name : Bytes) : Bool := sameName name agentName

def keptFields (fields : List Field) : List Field :=
  fields.filter fun field => !isProxyName field.1

/-- What is to be passed on of these field lines. -/
def expectedFields (fields : List Field) : List Field :=
  keptFields fields ++
    if fields.any fun field => isAgentName field.1 then [] else [agentField]

/-- What is passed on of the field lines that the proxy reads. -/
def passedFields (fields : List Field) : List Field :=
  (setDefault (ofPairs fields) agentName agentField.2).filter fun field =>
    decide (field.1 ∉ proxyNames)

/-- What the browser sent and what the proxy reads of it agree but for the proxy's
own fields, or for a last field that is the default itself; and the names are
apart and spelled as the server looks for them. -/
structure Survive (sent taken : List Field) : Prop where
  kept : (keptFields taken).Perm (keptFields sent) ∨
    (agentField :: keptFields taken).Perm (keptFields sent)
  distinct : ((keptFields sent).map Prod.fst).Nodup
  proxies : ∀ field ∈ taken, isProxyName field.1 = true → field.1 ∈ proxyNames
  agent : (∃ field ∈ sent, isAgentName field.1 = true) →
    agentName ∈ sent.map Prod.fst

theorem sameName_refl (name : Bytes) : sameName name name = true := decide_eq_true rfl

theorem isProxyName_of_mem {name : Bytes} (listed : name ∈ proxyNames) :
    isProxyName name = true :=
  List.any_eq_true.mpr ⟨name, listed, sameName_refl name⟩

theorem isProxyName_agentName : isProxyName agentName = false := by
  rw [isProxyName, proxyNames, agentName, encodeUtf8_eq, encodeUtf8_eq, encodeUtf8_eq]
  rfl

theorem agentName_not_mem : agentName ∉ proxyNames :=
  fun listed => absurd (isProxyName_of_mem listed) (by
    rw [isProxyName_agentName]
    exact Bool.false_ne_true)

theorem mem_keptFields {fields : List Field} {field : Field} :
    field ∈ keptFields fields ↔ field ∈ fields ∧ isProxyName field.1 = false := by
  rw [keptFields, List.mem_filter, Bool.not_eq_true']

theorem names_keptFields (fields : List Field) :
    (keptFields fields).map Prod.fst =
      (fields.map Prod.fst).filter fun name => !isProxyName name := by
  rw [keptFields, List.filter_map]
  rfl

theorem expectedFields_of_agent {fields : List Field}
    (named : ∃ field ∈ fields, isAgentName field.1 = true) :
    expectedFields fields = keptFields fields := by
  rw [expectedFields, if_pos (List.any_eq_true.mpr named), List.append_nil]

theorem expectedFields_of_none {fields : List Field}
    (unnamed : ¬∃ field ∈ fields, isAgentName field.1 = true) :
    expectedFields fields = keptFields fields ++ [agentField] := by
  rw [expectedFields, if_neg (mt List.any_eq_true.mp unnamed)]

theorem mem_expectedFields {fields : List Field} {field : Field}
    (expected : field ∈ expectedFields fields) :
    field ∈ keptFields fields ∨ field = agentField := by
  rw [expectedFields] at expected
  rcases List.mem_append.mp expected with kept | default
  · exact .inl kept
  · split at default
    case isTrue => cases default
    case isFalse => exact .inr (List.mem_singleton.mp default)

theorem isProxyName_of_expected {fields : List Field} {field : Field}
    (expected : field ∈ expectedFields fields) : isProxyName field.1 = false := by
  rcases mem_expectedFields expected with kept | rfl
  · exact (mem_keptFields.mp kept).2
  · exact isProxyName_agentName

theorem agent_of_name {fields : List Field}
    (present : agentName ∈ fields.map Prod.fst) :
    ∃ field ∈ fields, isAgentName field.1 = true := by
  obtain ⟨field, member, same⟩ := List.mem_map.mp present
  exact ⟨field, member, by rw [same]; exact sameName_refl agentName⟩

theorem agentName_mem_kept (fields : List Field) :
    agentName ∈ (keptFields fields).map Prod.fst ↔ agentName ∈ fields.map Prod.fst := by
  rw [names_keptFields, List.mem_filter, isProxyName_agentName]
  simp

/-! The dictionary that the server passes on. -/

theorem passedFields_of_agent {fields : List Field}
    (present : agentName ∈ fields.map Prod.fst) :
    passedFields fields =
      ofPairs (fields.filter fun field => decide (field.1 ∉ proxyNames)) := by
  rw [passedFields, setDefault, if_pos (mem_keys_ofPairs.mpr present)]
  exact filter_ofPairs (fun name => decide (name ∉ proxyNames)) fields

theorem passedFields_of_none {fields : List Field}
    (missing : agentName ∉ fields.map Prod.fst) :
    passedFields fields =
      ofPairs (fields.filter fun field => decide (field.1 ∉ proxyNames)) ++
        [agentField] := by
  rw [passedFields, setDefault, if_neg (mt mem_keys_ofPairs.mp missing),
    List.filter_append, filter_ofPairs fun name => decide (name ∉ proxyNames)]
  congr 1
  apply List.filter_eq_self.mpr
  intro field member
  rw [List.mem_singleton.mp member]
  exact decide_eq_true agentName_not_mem

theorem nodup_passedFields (fields : List Field) :
    ((passedFields fields).map Prod.fst).Nodup := by
  have distinct : ((setDefault (ofPairs fields) agentName agentField.2).map
      Prod.fst).Nodup := by
    rw [setDefault]
    split
    case isTrue => exact nodup_keys_ofPairs fields
    case isFalse missing =>
      rw [List.map_append, List.map_singleton, ← List.concat_eq_append]
      exact (nodup_keys_ofPairs fields).concat missing
  exact distinct.sublist (List.filter_sublist.map Prod.fst)

theorem mem_of_mem_passedFields {fields : List Field} {field : Field}
    (passed : field ∈ passedFields fields) : field ∈ fields ∨ field = agentField := by
  by_cases present : agentName ∈ fields.map Prod.fst
  · rw [passedFields_of_agent present] at passed
    exact .inl (List.mem_of_mem_filter (mem_of_mem_ofPairs passed))
  · rw [passedFields_of_none present] at passed
    rcases List.mem_append.mp passed with held | default
    · exact .inl (List.mem_of_mem_filter (mem_of_mem_ofPairs held))
    · exact .inr (List.mem_singleton.mp default)

theorem passed_of_name {fields : List Field} {field : Field} (member : field ∈ fields)
    (other : field.1 ∉ proxyNames) :
    field.1 ∈ (passedFields fields).map Prod.fst := by
  have held : field.1 ∈ (ofPairs (fields.filter fun field =>
      decide (field.1 ∉ proxyNames))).map Prod.fst := by
    rw [mem_keys_ofPairs]
    exact List.mem_map_of_mem (List.mem_filter.mpr ⟨member, decide_eq_true other⟩)
  by_cases present : agentName ∈ fields.map Prod.fst
  · rwa [passedFields_of_agent present]
  · rw [passedFields_of_none present, List.map_append]
    exact List.mem_append_left _ held

theorem filter_eq_keptFields {fields : List Field}
    (spelled : ∀ field ∈ fields, isProxyName field.1 = true → field.1 ∈ proxyNames) :
    (fields.filter fun field => decide (field.1 ∉ proxyNames)) = keptFields fields := by
  apply List.filter_congr
  intro field member
  cases proxy : isProxyName field.1 with
  | true =>
      exact decide_eq_false (not_not.mpr (spelled field member proxy))
  | false =>
      apply decide_eq_true
      intro listed
      rw [isProxyName_of_mem listed] at proxy
      cases proxy

theorem perm_of_survive {sent taken : List Field} (survive : Survive sent taken) :
    (passedFields taken).Perm (expectedFields sent) := by
  have plain := filter_eq_keptFields survive.proxies
  rcases survive.kept with same | short
  · have distinct : ((keptFields taken).map Prod.fst).Nodup :=
      (same.map Prod.fst).nodup_iff.mpr survive.distinct
    have agent : agentName ∈ taken.map Prod.fst ↔ agentName ∈ sent.map Prod.fst := by
      rw [← agentName_mem_kept taken, ← agentName_mem_kept sent]
      exact (same.map Prod.fst).mem_iff
    by_cases present : agentName ∈ taken.map Prod.fst
    · rw [passedFields_of_agent present, plain, ofPairs_of_nodup distinct,
        expectedFields_of_agent (agent_of_name (agent.mp present))]
      exact same
    · rw [passedFields_of_none present, plain, ofPairs_of_nodup distinct,
        expectedFields_of_none fun named => present (agent.mpr (survive.agent named))]
      exact same.append_right _
  · have distinct := (short.map Prod.fst).nodup_iff.mpr survive.distinct
    rw [List.map_cons, List.nodup_cons] at distinct
    have present : agentName ∈ sent.map Prod.fst := by
      rw [← agentName_mem_kept]
      exact (short.map Prod.fst).mem_iff.mp List.mem_cons_self
    rw [passedFields_of_none (mt (agentName_mem_kept taken).mpr distinct.1), plain,
      ofPairs_of_nodup distinct.2, expectedFields_of_agent (agent_of_name present)]
    exact List.perm_append_comm.trans short

/-! Fields that the proxy reads from the start of what was sent. -/

theorem solid_of_isProxyName {name : Bytes} (proxy : isProxyName name = true) :
    ∀ byte ∈ name, byte.toNat < 0x80 ∧ isSpace (Char.ofNat byte.toNat) = false := by
  have listed : (proxyNames.all fun other => isToken (other.map lowerByte)) = true := by
    rw [proxyNames, encodeUtf8_eq, encodeUtf8_eq]
    rfl
  obtain ⟨other, member, same⟩ := List.any_eq_true.mp proxy
  exact solid_of_token
    (token_of_sameName same (List.all_eq_true.mp listed other member))

theorem names_reencode {sent seen : List Field}
    (start : seen.map Prod.fst <+: sent.map Prod.fst)
    (clean : ∀ field ∈ keptFields sent, field.reencode = field) :
    (seen.map Field.reencode).map Prod.fst = seen.map Prod.fst := by
  rw [List.map_map]
  apply List.map_congr_left
  intro field member
  change reencode field.1 = field.1
  cases proxy : isProxyName field.1 with
  | true => exact reencode_of_solid (solid_of_isProxyName proxy)
  | false =>
      obtain ⟨other, inside, same⟩ :=
        List.mem_map.mp (start.subset (List.mem_map_of_mem member))
      have kept : other ∈ keptFields sent := mem_keptFields.mpr ⟨inside, same ▸ proxy⟩
      rw [← same]
      exact congrArg Prod.fst (clean other kept)

theorem reencode_agentField : agentField.reencode = agentField := by
  have name : reencode agentName = agentName := reencode_of_stripped rfl
  have value : reencode (encodeUtf8 userAgent) = encodeUtf8 userAgent :=
    reencode_of_stripped (by decide +kernel)
  rw [agentField, Field.reencode, name, value]

section

variable {sent seen : List Field} (start : seen.map Prod.fst <+: sent.map Prod.fst)
  (passed : (passedFields (seen.map Field.reencode)).Perm (expectedFields sent))

include passed

theorem clean_of_passed : ∀ field ∈ keptFields sent, field.reencode = field := by
  intro field kept
  have member := passed.mem_iff.mpr (List.mem_append_left _ kept)
  rcases mem_of_mem_passedFields member with held | rfl
  · obtain ⟨other, -, rfl⟩ := List.mem_map.mp held
    exact Field.reencode_reencode other
  · exact reencode_agentField

theorem distinct_of_passed : ((keptFields sent).map Prod.fst).Nodup := by
  have distinct := (passed.map Prod.fst).nodup_iff.mp (nodup_passedFields _)
  rw [expectedFields, List.map_append] at distinct
  exact (List.nodup_append.mp distinct).1

theorem proxies_of_passed :
    ∀ field ∈ seen.map Field.reencode, isProxyName field.1 = true →
      field.1 ∈ proxyNames := by
  intro field member proxy
  by_contra other
  obtain ⟨leaked, inside, same⟩ := List.mem_map.mp (passed_of_name member other)
  have clear := isProxyName_of_expected (passed.mem_iff.mp inside)
  rw [same, proxy] at clear
  cases clear

include start

theorem names_of_passed :
    (seen.map Field.reencode).map Prod.fst <+: sent.map Prod.fst := by
  rw [names_reencode start (clean_of_passed passed)]
  exact start

theorem agent_of_passed (named : ∃ field ∈ sent, isAgentName field.1 = true) :
    agentName ∈ sent.map Prod.fst := by
  by_contra missing
  have unseen : agentName ∉ (seen.map Field.reencode).map Prod.fst :=
    fun present => missing ((names_of_passed start passed).subset present)
  have default : agentField ∈ expectedFields sent := by
    rw [← passed.mem_iff, passedFields_of_none unseen]
    exact List.mem_append_right _ (List.mem_singleton_self _)
  rw [expectedFields_of_agent named] at default
  exact missing ((agentName_mem_kept sent).mp (List.mem_map_of_mem default))

theorem kept_of_passed :
    (keptFields (seen.map Field.reencode)).Perm (keptFields sent) ∨
      (agentField :: keptFields (seen.map Field.reencode)).Perm (keptFields sent) := by
  have names : (keptFields (seen.map Field.reencode)).map Prod.fst <+:
      (keptFields sent).map Prod.fst := by
    rw [names_keptFields, names_keptFields]
    exact (names_of_passed start passed).filter _
  have most := names.length_le
  rw [List.length_map, List.length_map] at most
  have plain := filter_eq_keptFields (proxies_of_passed passed)
  by_cases present : agentName ∈ (seen.map Field.reencode).map Prod.fst
  · have named := agent_of_name ((names_of_passed start passed).subset present)
    rw [passedFields_of_agent present, plain, expectedFields_of_agent named] at passed
    rw [← passed.length_eq] at most
    rw [ofPairs_of_nodup (nodup_keys_of_length most)] at passed
    exact .inl passed
  · by_cases named : ∃ field ∈ sent, isAgentName field.1 = true
    · -- The default stands in for a field of the browser's that was not read.
      have sentName := (agentName_mem_kept sent).mpr (agent_of_passed start passed named)
      rw [passedFields_of_none present, plain, expectedFields_of_agent named] at passed
      have total := passed.length_eq
      rw [List.length_append, List.length_singleton] at total
      have fewer : (keptFields (seen.map Field.reencode)).length <
          (keptFields sent).length := by
        apply Nat.lt_of_le_of_ne most
        intro same
        have all := names.eq_of_length (by rw [List.length_map, List.length_map, same])
        rw [← all] at sentName
        exact present ((agentName_mem_kept _).mp sentName)
      rw [ofPairs_of_nodup (nodup_keys_of_length (by omega))] at passed
      exact .inr (List.perm_append_comm.trans passed)
    · rw [passedFields_of_none present, plain, expectedFields_of_none named,
        List.perm_append_right_iff] at passed
      rw [← passed.length_eq] at most
      rw [ofPairs_of_nodup (nodup_keys_of_length most)] at passed
      exact .inl passed

end

/-- The fields pass exactly where they survive. -/
theorem passedFields_perm_iff {sent seen : List Field}
    (start : seen.map Prod.fst <+: sent.map Prod.fst) :
    (passedFields (seen.map Field.reencode)).Perm (expectedFields sent) ↔
      Survive sent (seen.map Field.reencode) := by
  constructor
  · intro passed
    exact {
      kept := kept_of_passed start passed
      distinct := distinct_of_passed passed
      proxies := proxies_of_passed passed
      agent := agent_of_passed start passed }
  · exact perm_of_survive

/-! The proxy's dictionary and the server's are these fields. -/

def textMember : List Char × List Char → PyText × JsonTree :=
  Prod.map pyText fun value => .str (pyText value)

def textField : List Char × List Char → Field :=
  Prod.map (List.flatMap String.utf8EncodeChar) (List.flatMap String.utf8EncodeChar)

/-- The dictionary has these fields, in some order. -/
def Carries (headers : List (PyText × JsonTree)) (fields : List Field) : Prop :=
  ∃ texts : List (List Char × List Char),
    headers = texts.map textMember ∧ (texts.map textField).Perm fields

def fieldText (field : Field) : List Char × List Char :=
  (strip (decodeAll field.1), strip (decodeAll field.2))

/-- What the proxy takes for the header block. -/
def readHead (raw : Bytes) : Bytes :=
  match partitionAt blankLine raw with
  | none => raw
  | some (before, _) => before

theorem addHeader_decodeAll (headers : List (PyText × JsonTree)) (line : Bytes) :
    addHeader headers (decodeAll line) =
      match fieldOf line with
      | some field =>
          assign headers (textMember (fieldText field)).1
            (textMember (fieldText field)).2
      | none => headers := by
  have cut : partitionAt [':'] (decodeAll line) =
      (partitionAt colon line).map fun parts => (decodeAll parts.1, decodeAll parts.2) :=
    partitionAt_decodeAll ascii_colon (List.cons_ne_nil _ _) line
  rw [addHeader, cut, fieldOf]
  cases partitionAt colon line with
  | none => rfl
  | some parts =>
      change setMember headers _ _ = assign headers
        (pyText (strip (decodeAll (trim isBlank parts.1))))
        (.str (pyText (strip (decodeAll (trim isBlank parts.2)))))
      rw [strip_decodeAll_trim isBlank_ascii, strip_decodeAll_trim isBlank_ascii]
      exact setMember_eq_assign headers _ _

theorem foldl_addHeader (lines : List Bytes) (headers : List (PyText × JsonTree)) :
    (lines.map decodeAll).foldl addHeader headers =
      (((lines.filterMap fieldOf).map fieldText).map textMember).foldl
        (fun entries pair => assign entries pair.1 pair.2) headers := by
  induction lines generalizing headers with
  | nil => rfl
  | cons line lines ih =>
      rw [List.map_cons, List.foldl_cons, ih, addHeader_decodeAll, List.filterMap_cons]
      cases fieldOf line with
      | none => rfl
      | some field => rfl

theorem httpCall_headersStr {raw : Bytes} {call : HttpCall}
    (called : httpCall raw = some call) :
    call.headersStr = (asciiChars crLf).intercalate
      ((splitAll (asciiChars crLf) (decodeAll (readHead raw))).drop 1) := by
  have cut := partitionAt_decodeAll ascii_blankLine (by decide) raw
  unfold httpCall at called
  dsimp only at called
  split at called
  case h_1 method target version more words =>
    split at called
    case isTrue => cases called
    case isFalse =>
      cases called
      rw [splitAt_one, cut, readHead]
      cases partitionAt blankLine raw with
      | none => rfl
      | some parts => rfl
  case h_2 => cases called

theorem parseHeaders_of_head (head : Bytes) :
    parseHeaders ((asciiChars crLf).intercalate
        ((splitAll (asciiChars crLf) (decodeAll head)).drop 1)) =
      (ofPairs ((headFields head).map fieldText)).map textMember := by
  have ascii : ∀ byte ∈ crLf, byte.toNat < 0x80 := ascii_lineEnd
  have some_ : crLf ≠ [] := List.cons_ne_nil _ _
  have chars : asciiChars crLf ≠ [] := List.cons_ne_nil _ _
  have members : ∀ lines : List Bytes,
      (lines.map decodeAll).foldl addHeader [] =
        (ofPairs ((lines.filterMap fieldOf).map fieldText)).map textMember := by
    intro lines
    rw [foldl_addHeader]
    exact ofPairs_map (fun _ _ => pyText_eq_iff.mp) _
  rw [parseHeaders, splitAll_decodeAll ascii some_, headFields]
  change _ = (ofPairs ((((splitAll crLf head).drop 1).filterMap fieldOf).map
    fieldText)).map textMember
  rw [← members]
  cases found : partitionAt crLf head with
  | none =>
      rw [splitAll_of_none found]
      rfl
  | some parts =>
      rw [splitAll_of_some some_ found, List.map_cons, List.drop_succ_cons,
        List.drop_zero, List.drop_succ_cons, List.drop_zero,
        ← splitAll_decodeAll ascii some_, intercalate_splitAll chars]

theorem httpCall_headers {raw : Bytes} {call : HttpCall}
    (called : httpCall raw = some call) :
    parseHeaders call.headersStr =
      (ofPairs ((headFields (readHead raw)).map fieldText)).map textMember := by
  rw [httpCall_headersStr called, parseHeaders_of_head]

def passedTexts (texts : List (List Char × List Char)) : List (List Char × List Char) :=
  (setDefault texts "User-Agent".toList userAgent.toList).filter fun text =>
    text.1 ≠ "Proxy-Connection".toList ∧ text.1 ≠ "Proxy-Authorization".toList

theorem httpHeaders_textMember (texts : List (List Char × List Char)) :
    httpHeaders (texts.map textMember) = (passedTexts texts).map textMember := by
  have default : setDefault (texts.map textMember) (pyText "User-Agent".toList)
      (.str (pyText userAgent.toList)) =
        (setDefault texts "User-Agent".toList userAgent.toList).map textMember :=
    setDefault_map (fun _ _ => pyText_eq_iff.mp) texts _ _
  unfold httpHeaders
  rw [default, List.filter_map, passedTexts]
  congr 1
  apply List.filter_congr
  intro text _
  apply decide_eq_decide.mpr
  change pyText text.1 ≠ _ ∧ pyText text.1 ≠ _ ↔ _
  rw [Ne, Ne, pyText_eq_iff, pyText_eq_iff]

theorem passedTexts_textField (fields : List Field) :
    (passedTexts (ofPairs (fields.map fieldText))).map textField =
      passedFields (fields.map Field.reencode) := by
  have pairs : (ofPairs (fields.map fieldText)).map textField =
      ofPairs (fields.map Field.reencode) := by
    have mapped : fields.map Field.reencode =
        (fields.map fieldText).map textField := by
      rw [List.map_map]
      rfl
    rw [mapped]
    exact (ofPairs_map flatMap_utf8_injective _).symm
  have default : setDefault (ofPairs (fields.map Field.reencode)) agentName
      agentField.2 =
        (setDefault (ofPairs (fields.map fieldText)) "User-Agent".toList
          userAgent.toList).map textField := by
    rw [← pairs, agentName, agentField, encodeUtf8_eq, encodeUtf8_eq]
    exact setDefault_map flatMap_utf8_injective _ _ _
  rw [passedFields, default, List.filter_map, passedTexts]
  congr 1
  apply List.filter_congr
  intro text _
  apply decide_eq_decide.mpr
  change _ ↔ text.1.flatMap String.utf8EncodeChar ∉ _
  rw [proxyNames, List.mem_cons, List.mem_singleton, encodeUtf8_eq, encodeUtf8_eq,
    flatMap_utf8_injective.eq_iff, flatMap_utf8_injective.eq_iff, not_or]

theorem carries_textMember (texts : List (List Char × List Char))
    (fields : List Field) :
    Carries (texts.map textMember) fields ↔ (texts.map textField).Perm fields := by
  have apart : Function.Injective textMember := by
    rintro ⟨key, value⟩ ⟨key', value'⟩ same
    obtain ⟨keys, values⟩ := Prod.mk.inj same
    rw [pyText_eq_iff.mp keys, pyText_eq_iff.mp (JsonTree.str.inj values)]
  constructor
  · rintro ⟨others, same, perm⟩
    rwa [List.map_injective_iff.mpr apart same]
  · exact fun perm => ⟨texts, rfl, perm⟩

end VpnTunnel.Tunnel
