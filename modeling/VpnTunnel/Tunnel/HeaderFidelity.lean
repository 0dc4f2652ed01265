import VpnTunnel.Foundation.CutHead
import VpnTunnel.Tunnel.RequestBody
import VpnTunnel.Tunnel.RequestHeaders

namespace VpnTunnel.Tunnel

open VpnTunnel.Client
open VpnTunnel.Crypto
open VpnTunnel.Foundation
open VpnTunnel.Server

/-! Which field lines reach the HTTP library. -/

section

variable (request : BrowserRequest) (cuts : List ℕ)

def BrowserRequest.fields : List Field := headFields request.head

/-- The field lines as the proxy reads them of the first `recv`. -/
def BrowserRequest.takenFields : List Field :=
  (headFields (readHead (request.bytes.take (firstRecv cuts)))).map Field.reencode

/-- Each field line with the number of its bytes in the first `recv`. -/
def BrowserRequest.shares : List (Bytes × ℕ) :=
  (Foundation.shares (firstRecv cuts) (splitAll lineEnd request.head)).drop 1

/-- The fields to be passed on are text without white space at its ends, no two with
one spelling of the name, and lose nothing by the end of the first `recv`, except
perhaps the default agent, which the server puts back; the proxy's own fields and the
agent's have the spelling that the server looks for. -/
structure BrowserRequest.FieldsPass : Prop where
  clean : ∀ field ∈ keptFields request.fields,
    IsStripped field.1 ∧ IsStripped field.2
  distinct : ((keptFields request.fields).map Prod.fst).Nodup
  agent : (∃ field ∈ request.fields, isAgentName field.1 = true) →
    agentName ∈ request.fields.map Prod.fst
  proxies : ∀ share ∈ request.shares cuts, ∀ field, fieldOf share.1 = some field →
    isProxyName field.1 = true → (0x3A : UInt8) ∈ share.1.take share.2 →
      field.1 ∈ proxyNames
  whole : ∀ share ∈ request.shares cuts, ∀ field, fieldOf share.1 = some field →
    isProxyName field.1 = false →
      Spared share.1 share.2 ∨
        field = agentField ∧ (0x3A : UInt8) ∉ share.1.take share.2

theorem fields_eq_filterMap :
    request.fields = (request.shares cuts).filterMap fun share => fieldOf share.1 := by
  have lines : (request.shares cuts).map Prod.fst = (splitAll lineEnd request.head).drop 1 := by
    rw [BrowserRequest.shares, List.map_drop, map_fst_shares]
  rw [BrowserRequest.fields, headFields, ← lines, List.filterMap_map]
  rfl

/-- What is sent behind the head up to the end of the empty line is no field. -/
theorem take_bytes {size : ℕ} (short : size < request.head.length + 4) :
    request.bytes.take size = (request.head ++ (lineEnd ++ [0x0D])).take size := by
  have start : request.bytes =
      (request.head ++ (lineEnd ++ [0x0D])) ++ (0x0A :: request.body) := by
    rw [BrowserRequest.bytes, List.append_assoc]
    rfl
  have within : size ≤ (request.head ++ (lineEnd ++ [0x0D])).length := by
    rw [List.length_append]
    change _ ≤ request.head.length + 3
    omega
  rw [start, List.take_append_of_le_length within]

theorem readHead_take :
    readHead (request.bytes.take (firstRecv cuts)) =
      if request.head.length + 4 ≤ firstRecv cuts then request.head
      else (request.head ++ (lineEnd ++ [0x0D])).take (firstRecv cuts) := by
  have cut := partitionAt_take request.ends (firstRecv cuts)
  change partitionAt blankLine (request.bytes.take (firstRecv cuts)) =
    if request.head.length + 4 ≤ firstRecv cuts then _ else _ at cut
  rw [readHead, cut]
  split_ifs with whole
  · rfl
  · exact take_bytes request (Nat.lt_of_not_le whole)

theorem takenFields_eq_filterMap :
    request.takenFields cuts = (request.shares cuts).filterMap readShare := by
  rw [BrowserRequest.takenFields, readHead_take]
  split
  case isTrue whole =>
    have all : request.head.take (firstRecv cuts) = request.head :=
      List.take_of_length_le (by omega)
    conv_lhs => rw [← all]
    exact headFields_take request.head (firstRecv cuts)
  case isFalse =>
    have clear : (0x0D : UInt8) ∉ [(0x0A : UInt8)] := by decide
    have lines : splitAll lineEnd (request.head ++ (lineEnd ++ [0x0D])) =
        splitAll lineEnd request.head ++ [[0x0D]] :=
      splitAll_append clear request.head [0x0D]
    obtain ⟨count, shares⟩ :=
      shares_append (firstRecv cuts) (splitAll lineEnd request.head) [0x0D]
    have plain : (0x3A : UInt8) ∉ ([0x0D] : Bytes) := by decide
    have bare : readShare ([0x0D], count) = none :=
      readShare_of_clear fun inside => plain (List.mem_of_mem_take inside)
    have some_ : 1 ≤ (Foundation.shares (firstRecv cuts)
        (splitAll lineEnd request.head)).length := by
      rw [← List.length_map Prod.fst, map_fst_shares]
      exact List.length_pos_iff.mpr (splitAll_ne_nil lineEnd_ne_nil request.head)
    rw [headFields_take, lines, shares, List.drop_append_of_le_length some_,
      List.filterMap_append, List.filterMap_cons, bare]
    exact List.append_nil _

theorem names_seen :
    (headFields (readHead (request.bytes.take (firstRecv cuts)))).map Prod.fst <+:
      request.fields.map Prod.fst := by
  rw [readHead_take]
  split
  case isTrue => exact List.prefix_rfl
  case isFalse =>
    rw [BrowserRequest.fields,
      ← headFields_append request.head [0x0D] (by decide) (by decide)]
    have rejoined := List.take_append_drop (firstRecv cuts)
      (request.head ++ (lineEnd ++ [0x0D]))
    conv_rhs => rw [← rejoined]
    exact headFields_prefix _ _

end

/-! The fields that survive are those that pass. -/

theorem filterMap_perm {α β : Type*} {sent read : α → Option β} {extra : β}
    {items : List α}
    (each : ∀ item ∈ items,
      read item = sent item ∨ read item = none ∧ sent item = some extra)
    (once : (items.filterMap sent).Nodup) :
    items.filterMap read = items.filterMap sent ∨
      (extra :: items.filterMap read).Perm (items.filterMap sent) := by
  induction items with
  | nil => exact .inl rfl
  | cons item items ih =>
      have later : ∀ other ∈ items,
          read other = sent other ∨ read other = none ∧ sent other = some extra :=
        fun other member => each other (List.mem_cons_of_mem item member)
      rw [List.filterMap_cons] at once
      rcases each item List.mem_cons_self with same | ⟨lost, default⟩
      · rw [List.filterMap_cons, List.filterMap_cons, same]
        cases found : sent item with
        | none =>
            rw [found] at once
            exact ih later once
        | some kept =>
            rw [found] at once
            rcases ih later (List.nodup_cons.mp once).2 with rest | rest
            · exact .inl (congrArg (List.cons kept) rest)
            · exact .inr ((List.Perm.swap kept extra _).trans (rest.cons kept))
      · rw [default] at once
        have others : items.filterMap read = items.filterMap sent := by
          apply List.filterMap_congr
          intro other member
          rcases later other member with same | ⟨-, again⟩
          · exact same
          · exact absurd (List.mem_filterMap.mpr ⟨other, member, again⟩)
              (List.nodup_cons.mp once).1
        rw [List.filterMap_cons, List.filterMap_cons, lost, default, others]
        exact .inr (List.Perm.refl _)

/-- The field of a line if it is to be passed on. -/
def keptField (field : Option Field) : Option Field :=
  field.filter fun field => !isProxyName field.1

theorem keptFields_filterMap {α : Type*} (find : α → Option Field) (items : List α) :
    keptFields (items.filterMap find) = items.filterMap fun item => keptField (find item) :=
  List.filter_filterMap

theorem keptField_of_proxy {field : Field} (proxy : isProxyName field.1 = true) :
    keptField (some field) = none := by
  rw [keptField, Option.filter_some, proxy]
  rfl

theorem keptField_of_other {field : Field} (other : isProxyName field.1 = false) :
    keptField (some field) = some field := by
  rw [keptField, Option.filter_some, other]
  rfl

theorem eq_of_nodup_filterMap {α β : Type*} {find : α → Option β} {items : List α}
    (once : (items.filterMap find).Nodup) {first second : α} {found : β}
    (firstMember : first ∈ items) (secondMember : second ∈ items)
    (firstFound : find first = some found) (secondFound : find second = some found) :
    first = second := by
  by_contra apart
  have pairs := List.pairwise_filterMap.mp once
  have symmetric : Std.Symm fun one other : α =>
      ∀ value, find one = some value → ∀ value', find other = some value' →
        value ≠ value' :=
    ⟨fun one other differ value has value' has' same => differ value' has' value has same.symm⟩
  exact pairs.forall firstMember secondMember apart found firstFound found secondFound rfl

section

variable {request : BrowserRequest} {cuts : List ℕ} {share : Bytes × ℕ} {field : Field}

theorem mem_fields (member : share ∈ request.shares cuts) (sent : fieldOf share.1 = some field) :
    field ∈ request.fields := by
  rw [fields_eq_filterMap request cuts]
  exact List.mem_filterMap.mpr ⟨share, member, sent⟩

theorem mem_takenFields (member : share ∈ request.shares cuts)
    (read : readShare share = some field) : field ∈ request.takenFields cuts := by
  rw [takenFields_eq_filterMap]
  exact List.mem_filterMap.mpr ⟨share, member, read⟩

/-- A field line is read as it was sent, or it is the default agent and not read. -/
theorem keptField_readShare (passes : request.FieldsPass cuts)
    (member : share ∈ request.shares cuts) :
    keptField (readShare share) = keptField (fieldOf share.1) ∨
      keptField (readShare share) = none ∧
        keptField (fieldOf share.1) = some agentField := by
  cases sent : fieldOf share.1 with
  | none =>
      have clear : (0x3A : UInt8) ∉ share.1.take share.2 := by
        intro inside
        obtain ⟨field, value, other, -⟩ := readShare_of_colon inside
        rw [sent] at other
        cases other
      rw [readShare_of_clear clear]
      exact .inl rfl
  | some field =>
      cases proxy : isProxyName field.1 with
      | true =>
          left
          rw [keptField_of_proxy proxy]
          by_cases inside : (0x3A : UInt8) ∈ share.1.take share.2
          · obtain ⟨field', value, same, read⟩ := readShare_of_colon inside
            obtain rfl := Option.some.inj (sent.symm.trans same)
            rw [read, reencode_of_solid (solid_of_isProxyName proxy)]
            exact keptField_of_proxy proxy
          · rw [readShare_of_clear inside]
            rfl
      | false =>
          rcases passes.whole share member field sent proxy with spared | ⟨rfl, clear⟩
          · obtain ⟨name, value⟩ :=
              passes.clean field (mem_keptFields.mpr ⟨mem_fields member sent, proxy⟩)
            have read : readShare share = some field := by
              rw [readShare, readField_of_spared spared, readField, sent, Option.map_some,
                Field.reencode, reencode_eq_self_iff.mpr name,
                reencode_eq_self_iff.mpr value]
            exact .inl (congrArg keptField read)
          · rw [readShare_of_clear clear, keptField_of_other proxy]
            exact .inr ⟨rfl, rfl⟩

theorem survive_of_fieldsPass (passes : request.FieldsPass cuts) :
    Survive request.fields (request.takenFields cuts) where
  kept := by
    have once := passes.distinct.of_map
    rw [fields_eq_filterMap request cuts, keptFields_filterMap] at once ⊢
    rw [takenFields_eq_filterMap, keptFields_filterMap]
    rcases filterMap_perm (fun share member => keptField_readShare passes member) once
      with same | default
    · exact .inl (List.Perm.of_eq same)
    · exact .inr default
  distinct := passes.distinct
  proxies := by
    intro field taken proxy
    rw [takenFields_eq_filterMap] at taken
    obtain ⟨share, member, read⟩ := List.mem_filterMap.mp taken
    by_cases inside : (0x3A : UInt8) ∈ share.1.take share.2
    · obtain ⟨own, value, sent, same⟩ := readShare_of_colon inside
      obtain rfl := Option.some.inj (read.symm.trans same)
      cases known : isProxyName own.1 with
      | true =>
          rw [reencode_of_solid (solid_of_isProxyName known)]
          exact passes.proxies share member own sent known inside
      | false =>
          have clean := passes.clean own
            (mem_keptFields.mpr ⟨mem_fields member sent, known⟩)
          rw [reencode_eq_self_iff.mpr clean.1, known] at proxy
          cases proxy
    · rw [readShare_of_clear inside] at read
      cases read
  agent := passes.agent

section

variable (survive : Survive request.fields (request.takenFields cuts))

include survive

theorem mem_kept_of_read (taken : field ∈ keptFields (request.takenFields cuts)) :
    field ∈ keptFields request.fields := by
  rcases survive.kept with same | short
  · exact same.mem_iff.mp taken
  · exact short.mem_iff.mp (List.mem_cons_of_mem _ taken)

theorem clean_of_survive (kept : field ∈ keptFields request.fields) :
    field.reencode = field := by
  have reencoded (taken : field ∈ keptFields (request.takenFields cuts)) :
      field.reencode = field := by
    obtain ⟨own, -, rfl⟩ := List.mem_map.mp (mem_keptFields.mp taken).1
    exact Field.reencode_reencode own
  rcases survive.kept with same | short
  · exact reencoded (same.mem_iff.mpr kept)
  · rcases List.mem_cons.mp (short.mem_iff.mpr kept) with rfl | taken
    · exact reencode_agentField
    · exact reencoded taken

/-- A field is read under its name if its colon is, and as it was sent then. -/
theorem read_of_survive (member : share ∈ request.shares cuts)
    (sent : fieldOf share.1 = some field) (other : isProxyName field.1 = false)
    (inside : (0x3A : UInt8) ∈ share.1.take share.2) : readShare share = some field := by
  obtain ⟨own, value, same, read⟩ := readShare_of_colon inside
  obtain rfl := Option.some.inj (sent.symm.trans same)
  have kept : field ∈ keptFields request.fields :=
    mem_keptFields.mpr ⟨mem_fields member sent, other⟩
  have name : reencode field.1 = field.1 := congrArg Prod.fst (clean_of_survive survive kept)
  rw [name] at read
  have taken := mem_kept_of_read survive
    (mem_keptFields.mpr ⟨mem_takenFields member read, other⟩)
  rw [read, List.inj_on_of_nodup_map survive.distinct taken kept rfl]

/-- A field of the browser's that is read is read from its own line. -/
theorem colon_of_taken (member : share ∈ request.shares cuts)
    (sent : fieldOf share.1 = some field) (other : isProxyName field.1 = false)
    (taken : field ∈ keptFields (request.takenFields cuts)) :
    (0x3A : UInt8) ∈ share.1.take share.2 := by
  have kept : field ∈ keptFields request.fields :=
    mem_keptFields.mpr ⟨mem_fields member sent, other⟩
  have held := (mem_keptFields.mp taken).1
  rw [takenFields_eq_filterMap] at held
  obtain ⟨share', member', read⟩ := List.mem_filterMap.mp held
  have inside : (0x3A : UInt8) ∈ share'.1.take share'.2 := by
    by_contra clear
    rw [readShare_of_clear clear] at read
    cases read
  obtain ⟨own, value, sent', same⟩ := readShare_of_colon inside
  have name : reencode own.1 = field.1 :=
    congrArg Prod.fst (Option.some.inj (same.symm.trans read))
  have plain : isProxyName own.1 = false := by
    by_contra proxy
    rw [Bool.not_eq_false] at proxy
    rw [← name, reencode_of_solid (solid_of_isProxyName proxy), proxy] at other
    cases other
  obtain rfl := Option.some.inj
    (read.symm.trans (read_of_survive survive member' sent' plain inside))
  have once := survive.distinct.of_map
  rw [fields_eq_filterMap request cuts, keptFields_filterMap] at once
  have line : share' = share :=
    eq_of_nodup_filterMap once member' member
      (by rw [sent', keptField_of_other plain]) (by rw [sent, keptField_of_other other])
  exact line ▸ inside

theorem fieldsPass_of_survive : request.FieldsPass cuts where
  clean := by
    intro field kept
    have clean := clean_of_survive survive kept
    exact ⟨reencode_eq_self_iff.mp (congrArg Prod.fst clean),
      reencode_eq_self_iff.mp (congrArg Prod.snd clean)⟩
  distinct := survive.distinct
  agent := survive.agent
  proxies := by
    intro share member field sent proxy inside
    obtain ⟨own, value, same, read⟩ := readShare_of_colon inside
    obtain rfl := Option.some.inj (sent.symm.trans same)
    rw [reencode_of_solid (solid_of_isProxyName proxy)] at read
    have taken := mem_takenFields member read
    exact survive.proxies (field.1, reencode value) taken proxy
  whole := by
    intro share member field sent other
    by_cases inside : (0x3A : UInt8) ∈ share.1.take share.2
    · left
      have within : share.2 ≤ share.1.length := le_of_mem_shares (List.mem_of_mem_drop member)
      exact spared_of_readField within sent
        (read_of_survive survive member sent other inside)
    · right
      refine ⟨?_, inside⟩
      have kept : field ∈ keptFields request.fields :=
        mem_keptFields.mpr ⟨mem_fields member sent, other⟩
      rcases survive.kept with same | short
      · exact absurd (colon_of_taken survive member sent other (same.mem_iff.mpr kept))
          inside
      · rcases List.mem_cons.mp (short.mem_iff.mpr kept) with default | taken
        · exact default
        · exact absurd (colon_of_taken survive member sent other taken) inside

end

end

/-- The browser's fields reach the library as HTTP wants it in exactly these
cases. -/
theorem request_header_fidelity (passage : Passage) (established : Established passage.keys)
    (request : BrowserRequest) (cuts : List ℕ) (ending : StreamEnd) :
    (∃ headers, headersArgument passage (request.sock cuts ending) = some headers ∧
      Carries headers (expectedFields request.fields)) ↔
      request.Reaches cuts ∧ request.FieldsPass cuts := by
  have carried {call : HttpCall}
      (called : httpCall (request.bytes.take (firstRecv cuts)) = some call) :
      Carries (httpHeaders (parseHeaders call.headersStr)) (expectedFields request.fields) ↔
        request.FieldsPass cuts := by
    rw [httpCall_headers called, httpHeaders_textMember, carries_textMember,
      passedTexts_textField, passedFields_perm_iff (names_seen request cuts)]
    exact ⟨fieldsPass_of_survive, survive_of_fieldsPass⟩
  rw [reaches_iff]
  constructor
  · rintro ⟨headers, passed, carries⟩
    obtain ⟨arguments, reached, rfl⟩ := Option.map_eq_some_iff.mp passed
    obtain ⟨call, calls, rfl⟩ := (httpArguments_eq_some established).mp reached
    exact ⟨⟨call, calls⟩, (carried calls.1).mp carries⟩
  · rintro ⟨⟨call, calls⟩, passes⟩
    have carries := (carried calls.1).mpr passes
    refine ⟨httpHeaders (parseHeaders call.headersStr), ?_, carries⟩
    apply Option.map_eq_some_iff.mpr
    exact ⟨_, (httpArguments_eq_some established).mpr ⟨call, calls, rfl⟩, rfl⟩

/-! Credentials for the proxy in the usual spelling, and in small letters. -/

def credentialsHead (name : String) : Bytes :=
  encodeUtf8 ("GET http://a/ HTTP/1.1\r\nHost: a\r\n" ++ name ++ ": Basic c2VjcmV0")

def usualCredentials : BrowserRequest where
  head := credentialsHead "Proxy-Authorization"
  body := []
  ends := by decide +kernel

theorem fieldsPass_usualCredentials : usualCredentials.FieldsPass [] where
  clean := by
    have clean : ∀ field ∈ keptFields usualCredentials.fields, field.reencode = field := by
      decide +kernel
    intro field kept
    exact ⟨reencode_eq_self_iff.mp (congrArg Prod.fst (clean field kept)),
      reencode_eq_self_iff.mp (congrArg Prod.snd (clean field kept))⟩
  distinct := by decide +kernel
  agent := by decide +kernel
  proxies := by
    have spelled : ∀ field ∈ usualCredentials.fields, isProxyName field.1 = true →
        field.1 ∈ proxyNames := by
      decide +kernel
    exact fun share member field sent proxy _ =>
      spelled field (mem_fields member sent) proxy
  whole := by
    have all : ∀ share ∈ usualCredentials.shares [], share.1.drop share.2 = [] := by
      decide +kernel
    intro share member field _ _
    refine .inl (.inl ?_)
    rw [all share member]
    exact nofun

theorem request_header_fidelity_usual :
    ∃ headers, headersArgument samplePassage (usualCredentials.sock [] .timeout) =
        some headers ∧
      Carries headers [(encodeUtf8 "Host", encodeUtf8 "a"), agentField] := by
  have expected : expectedFields usualCredentials.fields =
      [(encodeUtf8 "Host", encodeUtf8 "a"), agentField] := by
    decide +kernel
  rw [← expected]
  exact (request_header_fidelity samplePassage established_sampleLoopKeys usualCredentials []
    .timeout).mpr ⟨by decide +kernel, fieldsPass_usualCredentials⟩

def smallCredentials : BrowserRequest where
  head := credentialsHead "proxy-authorization"
  body := []
  ends := by decide +kernel

/-- In small letters they are passed on. -/
theorem request_header_leak :
    ¬ ∀ (passage : Passage) (request : BrowserRequest) (cuts : List ℕ)
        (ending : StreamEnd), Established passage.keys → request.Reaches cuts →
      ∃ headers, headersArgument passage (request.sock cuts ending) = some headers ∧
        Carries headers (expectedFields request.fields) := by
  intro claimed
  have names : (headersArgument samplePassage
      (smallCredentials.sock [] .timeout)).map (List.map Prod.fst) =
        some [pyText "Host".toList, pyText "proxy-authorization".toList,
          pyText "User-Agent".toList] := by
    decide +kernel
  obtain ⟨headers, passed, texts, rfl, perm⟩ := claimed samplePassage smallCredentials []
    .timeout established_sampleLoopKeys (by decide +kernel)
  rw [passed, Option.map_some, Option.some.injEq] at names
  have leaked : pyText "proxy-authorization".toList ∈
      (texts.map textMember).map Prod.fst := by
    rw [names]
    exact List.mem_cons_of_mem _ List.mem_cons_self
  rw [List.map_map] at leaked
  obtain ⟨text, member, same⟩ := List.mem_map.mp leaked
  have clear := isProxyName_of_expected
    (perm.mem_iff.mp (List.mem_map_of_mem member))
  have name : (textField text).1 = encodeUtf8 "proxy-authorization" := by
    rw [encodeUtf8_eq, ← pyText_eq_iff.mp same]
    rfl
  rw [name] at clear
  exact absurd clear (by decide +kernel)

end VpnTunnel.Tunnel
