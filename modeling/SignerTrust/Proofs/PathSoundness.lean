import SignerTrust.Proofs.ChainSearch
import SignerTrust.Proofs.DistinctAnchors
import SignerTrust.Proofs.RegistryAnchors

/-!
# What an accepted path rests on

A certificate is accepted for an ecosystem if the ecosystem's issuing authority issued it, which in
turn a root of the registry issued; or if a root issued it directly or is that certificate itself
(`verifyPath_issued`).  The second way bypasses the issuing authority, and it is open: a certificate
of a root alone is accepted for an ecosystem of another issuing authority
(`verifyPath_bypasses_sub`).
-/

namespace SignerTrust

open SignerTrust.Path

namespace Path

/-- A certificate is issued by another: it names its subject and is signed with its key. -/
structure Link.IssuedBy (l issuer : Link) : Prop where
  named : issuer.subject.same l.issuer = true
  signed : l.isSignedBy issuer.publicKey = true

theorem Link.isCurrent_of_checkPeriod {l : Link} {instant : Int}
    (h : l.checkPeriod instant = .ok ()) : l.isCurrent instant = true := by
  simp [isCurrent, h, Except.toBool]

namespace Chain

variable {trusted : List Member} {instant : Int}

/-- A chain that a search completes, with no more than one certificate given, and whose signatures
hold, goes by the given certificate to a trusted one, or to a trusted one at once. -/
theorem search_issued {given : Option Member} {leaf : Member} {chain : List Member}
    (h : search trusted given.toList instant leaf = .complete chain)
    (hs : checkSignatures instant chain = .ok ()) :
    (leaf.link.isCurrent instant = true ∧ ∃ m ∈ given, m.link.isCurrent instant = true
      ∧ leaf.link.IssuedBy m.link ∧ ∃ r ∈ trusted, m.link.IssuedBy r.link)
    ∨ ∃ r ∈ trusted, r.link.isCurrent instant = true ∧ leaf.Names r
      ∧ (leaf.link.isSignedBy r.link.publicKey = true ∨ leaf.link.same r.link = true) := by
  obtain ⟨up, hup, hl⟩ : ∃ up, chain = [] ++ up ∧ Leads trusted given.toList leaf up :=
    leads_of_extend (by simp) h
  obtain ⟨hchain, hperiod⟩ := checkSignatures_eq_ok_iff.1 hs
  rw [hup, List.nil_append] at hchain hperiod
  replace hperiod := fun m hm => Link.isCurrent_of_checkPeriod (hperiod m hm)
  cases hl with
  | itself ht hi _ hsame =>
    exact .inr ⟨_, ht, hperiod _ List.mem_cons_self, Member.names_of_mayIssue hi, .inr hsame⟩
  | @step _ issuer up hm hi _ hl =>
    obtain ⟨r, rest, rfl, hr, hnames⟩ := hl.head
    have hleaf : leaf.Names r := hnames leaf (Member.names_of_mayIssue hi)
    obtain ⟨hsigned, hchain⟩ := List.isChain_cons_cons.1 hchain
    by_cases ht : r ∈ trusted
    · exact .inr ⟨r, ht, hperiod r (by simp), hleaf, .inl hsigned⟩
    -- the issuer itself comes next, it is the given one, and what follows it is trusted
    obtain rfl : r = issuer := hr.resolve_right ht
    have hg : r ∈ given := by simpa using hm.resolve_left ht
    cases hl with
    | itself ht' => exact absurd ht' ht
    | @step _ above up hm' hi' hself hl =>
      obtain ⟨t, rest, rfl, hr', hnames'⟩ := hl.head
      obtain ⟨hsigned', -⟩ := List.isChain_cons_cons.1 hchain
      have ht' : t ∈ trusted := by
        rcases hr' with rfl | ht'
        · refine hm'.resolve_right fun hg' => ?_
          obtain rfl : t = r := Option.mem_unique (by simpa using hg') hg
          exact absurd hi' (by rw [Member.isSelfSigned] at hself; simp [hself])
        · exact ht'
      exact .inl ⟨hperiod leaf (by simp), r, hg, hperiod r (by simp), ⟨hleaf, hsigned⟩, t, ht',
        ⟨hnames' r (Member.names_of_mayIssue hi'), hsigned'⟩⟩

theorem checkSignatures_of_check {chain : List Member} (h : check instant chain = .ok ()) :
    checkSignatures instant chain = .ok () := by
  unfold check at h
  rcases hc : checkConformance chain with f | ⟨⟩
  · simp [hc, Except.mapError, bind, Except.bind] at h
  rcases hs : checkSignatures instant chain with f | ⟨⟩
  · simp [hc, hs, Except.mapError, bind, Except.bind] at h
  · rfl

end Chain

/-- What it takes for a path to be verified. -/
theorem verify_eq_ok {roots : List Bytes} {middle leaf : Bytes} {instant : Int}
    (h : verify roots middle leaf instant = .ok ()) :
    ∃ l s trusted m chain, Link.decode? leaf = some l ∧ Link.decode? middle = some s
      ∧ roots.mapM Link.decode? = some trusted ∧ Member.ofLink? l = some m
      ∧ Chain.search (trusted.filterMap Member.ofLink?) (Member.ofLink? s).toList instant m
        = .complete chain
      ∧ Chain.check instant chain = .ok () := by
  unfold verify at h
  rcases hl : Link.decode? leaf with _ | l <;> rw [hl] at h
  · cases h
  rcases hs : Link.decode? middle with _ | s <;> rw [hs] at h
  · cases h
  rcases hr : roots.mapM Link.decode? with _ | trusted <;> rw [hr] at h
  · cases h
  simp only [] at h
  rcases hm : Member.ofLink? l with _ | m <;> rw [hm] at h
  · cases h
  simp only [] at h
  split at h
  · rename_i chain hc
    exact ⟨l, s, trusted, m, chain, rfl, rfl, rfl, hm, hc, h⟩
  · cases h
  · cases h

end Path

namespace Registry

/-- Whether a certificate is one of the roots of a registry. -/
def HasRoot (g : Registry) (r : Link) : Prop :=
  ∃ a ∈ g.ofRole .root, Link.decode? a.encoding = some r

/-- A path that is accepted for an ecosystem leads over its issuing authority, which issued the
certificate and was issued by a root; or the certificate names a root as its issuer, and was signed
with the root's key or is that root. -/
theorem verifyPath_issued {g : Registry} {leaf : Bytes} {e : Ecosystem} {instant : Int}
    (h : g.verifyPath leaf e instant = .ok ()) :
    ∃ sub l s, g.anchor e .sub = .ok sub ∧ Link.decode? leaf = some l
      ∧ Link.decode? sub.encoding = some s
      ∧ ((l.isCurrent instant = true ∧ s.isCurrent instant = true ∧ l.IssuedBy s
          ∧ ∃ r, g.HasRoot r ∧ s.IssuedBy r)
        ∨ ∃ r, g.HasRoot r ∧ r.isCurrent instant = true ∧ r.subject.same l.issuer = true
          ∧ (l.isSignedBy r.publicKey = true ∨ l.same r = true)) := by
  unfold verifyPath at h
  split at h
  · cases h
  rename_i sub ha
  obtain ⟨l, s, trusted, m, chain, hl, hs, hr, hm, hc, h⟩ := verify_eq_ok h
  obtain rfl := Member.ofLink?_eq_some hm
  have root : ∀ t ∈ trusted.filterMap Member.ofLink?, g.HasRoot t.link := by
    intro t ht
    obtain ⟨r, hrm, ht⟩ := List.mem_filterMap.1 ht
    obtain ⟨bytes, hb, hd⟩ := exists_of_mapM_eq_some hr r hrm
    obtain ⟨a, ha, rfl⟩ := List.mem_map.1 hb
    exact ⟨a, (distinct_sublist _).subset ha, Member.ofLink?_eq_some ht ▸ hd⟩
  refine ⟨sub, m.link, s, ha, hl, hs, ?_⟩
  rcases Chain.search_issued hc (Chain.checkSignatures_of_check h) with
    ⟨hcl, x, hx, hcx, hi, t, ht, hxt⟩ | ⟨t, ht, hct, hn, hst⟩
  · obtain rfl := Member.ofLink?_eq_some hx
    exact .inl ⟨hcl, hcx, hi, t.link, root t ht, hxt⟩
  · exact .inr ⟨t.link, root t ht, hct, hn, hst⟩

section Bypass

/-- The certificate of a root. -/
def directRoot : Bytes := [
    0x3082021030820179a003020102020101300d06092a864886f70d01010b0500302c310b3009060355,
    0x04060c024543310e300c060355040a0c0542414e434f310d300b06035504030c045241495a301e17,
    0x0d3235303130313030303030305a170d3335303130313030303030305a302c310b30090603550406,
    0x0c024543310e300c060355040a0c0542414e434f310d300b06035504030c045241495a30819f300d,
    0x06092a864886f70d010101050003818d0030818902818100a0aa5e88c36e7e07a4df926c704a8782,
    0xb652ea2be0fc6a513735c8a849cac8252afc115ca59aaf944c2ca352276f24554a20e9f9a360f08e,
    0xeb3be5a999f113847545919d5243f0314c713880084e6918cbbba15e069353837fadd0dc67fd9d46,
    0x68d938272e07bd79012d0cdcceb1f43d5f198e09ead649b7be4eee2aca862c8f0203010001a34230,
    0x40300f0603551d130101ff040530030101ff300e0603551d0f0101ff040403020106301d0603551d,
    0x0e0416041433014c34927b0767dfce4b3affd2f6619126a594300d06092a864886f70d01010b0500,
    0x0381810016a8a65d7f652e5652a9635fc3d6b1abea09abc458fb55307aa8755c833a251f69af1367,
    0xa124f6400962ee4dc8311839413ad703fa314eed4428deffd178dd5b5930ada1478e8ce79745f753,
    0x6ddd66864ececed164c954e87784f09d83ba58891b3d2e4761dc43956f5e75ddd15e94b0277e477c
  ].flatMap (Bytes.ofNat 40) ++ Bytes.ofNat 12 0x7c00cc243823ee37f19dd703

/-- That certificate in armour. -/
def directRootArmour : Bytes := [
    0x2d2d2d2d2d424547494e2043455254494649434154452d2d2d2d2d0a4d4949434544434341586d67,
    0x41774942416749424154414e42676b71686b69473977304241517346414441734d51737743515944,
    0x5651514744414a46517a454f0a4d4177474131554543677746516b464f513038784454414c42674e,
    0x5642414d4d42464a4253566f774868634e4d6a55774d5441784d4441774d4441775768634e0a4d7a,
    0x55774d5441784d4441774d444177576a41734d517377435159445651514744414a46517a454f4d41,
    0x77474131554543677746516b464f513038784454414c0a42674e5642414d4d42464a4253566f7767,
    0x5a38774451594a4b6f5a496876634e4151454242514144675930414d49474a416f4742414b437158,
    0x6f6a44626e34480a704e2b536248424b68344b3255756f723450787155546331794b684a7973676c,
    0x4b767752584b57617235524d4c4b4e534a32386b56556f6736666d6a5950434f0a367a766c715a6e,
    0x7845345231525a4764556b50774d5578784f494149546d6b59793775685867615455344e2f726444,
    0x635a2f3264526d6a5a4f436375423731350a4153304d334d3678394431664759344a36745a4a7437,
    0x354f3769724b6869795041674d424141476a516a42414d41384741315564457745422f7751464d41,
    0x4d420a4166387744675944565230504151482f42415144416745474d423047413155644467515742,
    0x42517a415577306b6e73485a392f4f537a722f30765a686b53616c0a6c44414e42676b71686b6947,
    0x397730424151734641414f4267514157714b5a6466325575566c4b7059312f443172477236676d72,
    0x78466a3756544236714856630a677a6f6c48326d76453265684a505a4143574c755463677847446c,
    0x424f7463442b6a464f3755516f33762f52654e3162575443746f55654f6a4f6558526664540a6264,
    0x316d686b374f7a74466b7956546f643454776e594f3657496b6250533548596478446c5739656464,
    0x3352587053774a333548664877417a435134492b34330a385a335841773d3d0a2d2d2d2d2d454e44
  ].flatMap (Bytes.ofNat 40) ++ Bytes.ofNat 18 0x2043455254494649434154452d2d2d2d2d0a

/-- The certificate of an issuing authority under that root. -/
def directSub : Bytes := [
    0x308201f43082015da00302010202020a01300d06092a864886f70d01010b0500302c310b30090603,
    0x5504060c024543310e300c060355040a0c0542414e434f310d300b06035504030c045241495a301e,
    0x170d3235303130313030303030305a170d3335303130313030303030305a3032310b300906035504,
    0x060c024543310e300c060355040a0c0542414e434f3113301106035504030c0a5355424341205445,
    0x53543059301306072a8648ce3d020106082a8648ce3d030107034200040d96d47c713b690b9645a4,
    0xba451c27e79235ad198a7cae3d9e0e42f61ce7ca9b64ea653dbdf7dbae667028d22e1e43093c9dae,
    0x8054dda601b23cd7ce90cf2c90a366306430120603551d130101ff040830060101ff020100300e06,
    0x03551d0f0101ff040403020106301d0603551d0e0416041466e7164ca35bee4022220be82bbce78e,
    0x9332f8fe301f0603551d2304183016801433014c34927b0767dfce4b3affd2f6619126a594300d06,
    0x092a864886f70d01010b05000381810085c83555f36105fa95b50e01ea93746b6422a53ef458fffe,
    0x38144df88cc51d086ba8b2b98df0691382fbb8405078b349a54aeb717eb5b99182caeb2e5cfc2fa1,
    0x37459b49070a502a9fa161b25025d43a6f547fe448708cecb10952ccaf607ca4d9ff5bedcfc857ad
  ].flatMap (Bytes.ofNat 40) ++ Bytes.ofNat 24 0xb295131612ccae9c843584bc6ff6155f7f6857bd6bb94418

/-- That certificate in armour. -/
def directSubArmour : Bytes := [
    0x2d2d2d2d2d424547494e2043455254494649434154452d2d2d2d2d0a4d4949423944434341563267,
    0x4177494241674943436745774451594a4b6f5a496876634e4151454c425141774c44454c4d416b47,
    0x413155454267774352554d780a446a414d42674e5642416f4d42554a42546b4e504d513077437759,
    0x44565151444441525351556c614d423458445449314d4445774d5441774d4441774d466f580a4454,
    0x4d314d4445774d5441774d4441774d466f774d6a454c4d416b47413155454267774352554d78446a,
    0x414d42674e5642416f4d42554a42546b4e504d524d770a45515944565151444441705456554a4451,
    0x53425552564e554d466b77457759484b6f5a497a6a3043415159494b6f5a497a6a30444151634451,
    0x674145445a62550a6648453761517557526153365252776e3535493172526d4b664b34396e673543,
    0x39687a6e7970746b366d553976666662726d5a774b4e4975486b4d4a504a32750a67465464706747,
    0x79504e664f6b4d38736b4b4e6d4d47517745675944565230544151482f42416777426745422f7749,
    0x424144414f42674e5648513842416638450a42414d4341515977485159445652304f424259454647,
    0x626e466b796a572b35414969494c36437538353436544d766a2b4d42384741315564497751594d42,
    0x61410a46444d42544453536577646e3338354c4f762f53396d47524a7157554d4130474353714753,
    0x496233445145424377554141344742414958494e56587a595158360a6c62554f416571546447746b,
    0x4971552b39466a2f2f6a67555466694d78523049613669797559337761524f432b3768415548697a,
    0x5361564b3633462b74626d520a677372724c6c7a384c364533525a744a427770514b702b6859624a,
    0x514a6451366231522f354568776a4f797843564c4d72324238704e6e2f572b3350794665740a7370,
    0x555446684c4d727079454e595338622f59565833396f56373172755551590a2d2d2d2d2d454e4420
  ].flatMap (Bytes.ofNat 40) ++ Bytes.ofNat 17 0x43455254494649434154452d2d2d2d2d0a

/-- A certificate that the root issued itself. -/
def directLeaf : Bytes := [
    0x308201d830820141a00302010202021001300d06092a864886f70d01010b0500302c310b30090603,
    0x5504060c024543310e300c060355040a0c0542414e434f310d300b06035504030c045241495a301e,
    0x170d3235303130313030303030305a170d3335303130313030303030305a301c310b300906035504,
    0x060c024543310d300b06035504030c044a55414e3059301306072a8648ce3d020106082a8648ce3d,
    0x030107034200042b08c055671821d3e77f4abdee2994eef29ac2892a88834dd695157588fba84996,
    0xbdc159932eeddabe047e08bb820b8f7ba76916d22dcc439e31c34ed45d19a5a360305e300c060355,
    0x1d130101ff04023000300e0603551d0f0101ff0404030206c0301d0603551d0e0416041459cc0afa,
    0xe19b58691bf65ebfb61799aacfad9aa0301f0603551d2304183016801433014c34927b0767dfce4b,
    0x3affd2f6619126a594300d06092a864886f70d01010b0500038181003bb46041a013a427274f0082,
    0x4cf9513f697bfa47c4c35e3864a14d50de3afe860880641b15163203c448443a28b501919383b359,
    0x733150637ecdf64b14002f6358576204f63c809f9978b4cac68ef2fef3540ab4ca0fb07158ca911d
  ].flatMap (Bytes.ofNat 40) ++ Bytes.ofNat 36
    0x6c0de24b576e7a2d2f1cfd6114fba574798702dcf26b54b969af3c8dae1e3d391093c9f7

/-- What armoured certificate is given for a role. -/
def directArmour : AnchorRole → Bytes
  | .root => directRootArmour
  | .sub => directSubArmour

def directEncoding : AnchorRole → Bytes
  | .root => directRoot
  | .sub => directSub

def directAnchor (e : Ecosystem) (r : AnchorRole) : TrustAnchor :=
  (TrustAnchor.ofEncoded e r (directEncoding r)).toOption.getD ⟨e, r, [], "", "", [], 0, 0⟩

/-- The registry in which all ecosystems have that root and that issuing authority. -/
def directRegistry : Registry where
  anchors := places.map fun (e, r) => directAnchor e r

def directInstant : Int := 1767225600

theorem blocks_directArmour (r : AnchorRole) :
    Armour.blocks (directArmour r) = [.bytes (directEncoding r)] := by
  cases r <;> decide +kernel

theorem ofArmoured_direct :
    ofArmoured (places.map fun (e, r) => (e, r, directArmour r)) = .ok directRegistry := by
  have hne : ∀ p ∈ places, p.1 ≠ .unknown := by decide
  have hd : ∀ r, (Certificate.decode? (directEncoding r)).isSome = true := by
    intro r
    cases r <;> decide +kernel
  refine @ofArmoured_places (fun _ r => directArmour r) directAnchor fun p hp => ?_
  rw [readEntry_of_blocks (hne p hp) p.2 (blocks_directArmour p.2), directAnchor]
  exact TrustAnchor.ofEncoded_eq_getD (hd p.2) _

theorem verifyPath_directLeaf :
    directRegistry.verifyPath directLeaf .bancoCentral directInstant = .ok () := by
  decide +kernel

theorem anchor_direct : ∃ sub, directRegistry.anchor .bancoCentral .sub = .ok sub
    ∧ sub.encoding = directSub := by
  have h : (directRegistry.anchor .bancoCentral .sub).toOption.map (·.encoding)
      = some directSub := by decide +kernel
  rcases ha : directRegistry.anchor .bancoCentral .sub with err | sub <;> rw [ha] at h
  · cases h
  · exact ⟨sub, rfl, Option.some.inj h⟩

theorem directLeaf_not_issued_by_sub {l s : Link} (hl : Link.decode? directLeaf = some l)
    (hs : Link.decode? directSub = some s) : ¬ l.IssuedBy s := by
  intro h
  have hn : (Link.decode? directLeaf).bind (fun l =>
      (Link.decode? directSub).map fun s => s.subject.same l.issuer) = some false := by
    decide +kernel
  simp only [hl, hs, Option.bind_some, Option.map_some, Option.some.injEq, h.named] at hn
  cases hn

theorem verifyPath_issued_of_direct :
    ∃ l r, Link.decode? directLeaf = some l ∧ directRegistry.HasRoot r
      ∧ r.isCurrent directInstant = true ∧ r.subject.same l.issuer = true
      ∧ (l.isSignedBy r.publicKey = true ∨ l.same r = true) := by
  obtain ⟨sub, l, s, ha, hl, hs, ⟨-, -, hi, -⟩ | ⟨r, hr, hc, hn, hv⟩⟩ :=
    verifyPath_issued verifyPath_directLeaf
  · obtain ⟨sub', ha', he⟩ := anchor_direct
    cases ha.symm.trans ha'
    rw [he] at hs
    exact absurd hi (directLeaf_not_issued_by_sub hl hs)
  · exact ⟨l, r, hl, hr, hc, hn, hv⟩

/-- A certificate that a root issued is accepted for an ecosystem whose issuing authority did not
issue it. -/
theorem verifyPath_bypasses_sub :
    ofArmoured (places.map fun (e, r) => (e, r, directArmour r)) = .ok directRegistry
      ∧ directRegistry.verifyPath directLeaf .bancoCentral directInstant = .ok ()
      ∧ ∃ sub l s, directRegistry.anchor .bancoCentral .sub = .ok sub
        ∧ Link.decode? directLeaf = some l ∧ Link.decode? sub.encoding = some s
        ∧ ¬ l.IssuedBy s := by
  obtain ⟨sub, ha, he⟩ := anchor_direct
  obtain ⟨l, hl⟩ : ∃ l, Link.decode? directLeaf = some l :=
    Option.isSome_iff_exists.1 (by decide +kernel)
  obtain ⟨s, hs⟩ : ∃ s, Link.decode? directSub = some s :=
    Option.isSome_iff_exists.1 (by decide +kernel)
  exact ⟨ofArmoured_direct, verifyPath_directLeaf, sub, l, s, ha, hl, he ▸ hs,
    directLeaf_not_issued_by_sub hl hs⟩

end Bypass

end Registry

end SignerTrust
