import AsbCloudApi.Base.Run
import AsbCloudApi.Net.UrlParse
import AsbCloudApi.Workers.Worker

/-!
# Browser runner

Library `Workers`. Models `ASBRunner` of `src/asb_api/workers/asb_runner.py`. A call is a coroutine
that drives the browser; a browser keeps the contexts that were created and not closed yet. The
`finally` of a call covers the page, not its creation.
-/

namespace AsbCloudApi.Workers

open Base Text Api Net Providers Session

/-- `ASBRunner`: whether its attributes are set; `src/asb_api/workers/asb_runner.py:8–10`. -/
structure ASBRunner where
  playwright : Bool
  browser : Bool
  deriving DecidableEq

/-- The tables of `str.lower` and `str.upper`. -/
structure CaseTables extends UnicodeTables where
  /-- `str.upper`, used on texts with a character outside ASCII only. -/
  upper : Chars → Chars

/-- `s.upper()`. -/
def CaseTables.upperText (u : CaseTables) (s : Chars) : Chars :=
  if s.all isAscii then s.map Char.toUpper else u.upper s

/-! ### Headers and body -/

/-- What is sent as it is: `str` or `bytes`. -/
inductive RequestBody where
  | text (s : String)
  | bytes (bs : List UInt8)
  deriving DecidableEq

/-- The `data` of a call. Any other value is given by what `json.dumps` makes of it. -/
inductive RequestData where
  | none
  | raw (body : RequestBody)
  | json (dumped : Except PyError String)

/-- `k.lower() == name`. -/
def nameIs (u : UnicodeTables) (name k : String) : Bool := u.lowerText k.toList = name.toList

/-- `_prepare_body`; `src/asb_api/workers/asb_runner.py:28–39`. -/
def prepareBody (u : UnicodeTables) (headers : Option (Dict String String)) (data : RequestData) :
    Except PyError (Dict String String × Option RequestBody) :=
  let requestHeaders := headers.getD Dict.empty
  match data with
  | .none => .ok (requestHeaders, none)
  | .raw body => .ok (requestHeaders, some body)
  | .json dumped =>
    let hasContentType := requestHeaders.keys.any (nameIs u "content-type")
    let requestHeaders :=
      if hasContentType then requestHeaders
      else requestHeaders.set "Content-Type" "application/json"
    dumped.map fun s ↦ (requestHeaders, some (.text s))

/-! ### A call -/

/-- `Fingerprint`, as far as a context is made from it. -/
structure ContextFingerprint extends Fingerprint where
  viewport : Int × Int

/-- The arguments of `run`. -/
structure RunArgs where
  url : String
  method : Option String
  headers : Option (Dict String String)
  data : RequestData
  proxy : Option ProxyConfig
  fingerprint : ContextFingerprint
  timeout : Int
  screenshot : Bool
  screenshotDir : Option String

/-- The proxy of a context. -/
structure ProxySettings where
  server : String
  username : Option String
  password : Option String

/-- The arguments of `browser.new_context`. -/
structure ContextOptions where
  userAgent : String
  width : Int
  height : Int
  proxy : Option ProxySettings
  extraHttpHeaders : Dict String String

/-- A response of the browser, as far as it is read. -/
structure BrowserResponse where
  headers : Dict String String

/-- The steps of a call, without the arguments that are always the same. A context has one page,
which goes by its number. -/
inductive RunnerOp where
  | newContext (options : ContextOptions)
  | newPage (context : Nat)
  | fetch (context : Nat) (url : String) (headers : Dict String String)
      (data : Option RequestBody) (timeout : Int)
  | text (response : BrowserResponse)
  | setContent (page : Nat) (html : String) (timeout : Int)
  | goto (page : Nat) (url : String) (timeout : Int)
  | content (page : Nat)
  | cookies (context : Nat)
  | makedirs (dir : String)
  | uuidHex
  | screenshot (page : Nat) (path : String)
  | close (context : Nat)

/-- What each step answers. -/
abbrev RunnerOp.Ans : RunnerOp → Type
  | .newContext _ => Nat
  | .newPage _ => Unit
  | .fetch _ _ _ _ _ => BrowserResponse
  | .text _ => String
  | .setContent _ _ _ => Unit
  | .goto _ _ _ => Option BrowserResponse
  | .content _ => String
  | .cookies _ => List (String × String)
  | .makedirs _ => Unit
  | .uuidHex => String
  | .screenshot _ _ => Unit
  | .close _ => Unit

/-- A coroutine of the runner. -/
abbrev RunnerProg := Prog PyError RunnerOp.Ans

/-- `ProxyConfig.protocol`, as text. -/
def protocolText : ProxyProtocol → String
  | .http => "http"
  | .socks5 => "socks5"
  | .socks4 => "socks4"

/-- `proxy_config`; `src/asb_api/workers/asb_runner.py:48–54`. -/
def proxySettings : Option ProxyConfig → Option ProxySettings
  | none => none
  | some proxy =>
    if proxy.host = "DIRECT" then none
    else some
      { server := protocolText proxy.protocol ++ "://" ++ proxy.host ++ ":" ++ toString proxy.port
        username := proxy.username
        password := proxy.password }

/-- `os.path.join(dir, name)`, for a relative name. -/
def pathJoin (dir name : String) : String :=
  if dir = "" ∨ dir.toList.getLast? = some '/' then dir ++ name else dir ++ "/" ++ name

namespace ASBRunner

/-- `method_upper`; `src/asb_api/workers/asb_runner.py:42`. -/
def methodUpper (u : CaseTables) (method : Option String) : String :=
  String.ofList (u.upperText (orElse method "GET").toList)

/-- The page of the answer and its content; `src/asb_api/workers/asb_runner.py:66–78`. -/
def loadPage (methodUpper : String) (args : RunArgs) (headers : Dict String String)
    (body : Option RequestBody) (context : Nat) :
    RunnerProg (Option BrowserResponse × String) :=
  if methodUpper = "POST" then do
    let response : BrowserResponse ←
      .perform (RunnerOp.fetch context args.url headers body (args.timeout * 1000))
    let html : String ← .perform (RunnerOp.text response)
    let _ ← .perform (.setContent context html (args.timeout * 1000))
    pure (some response, html)
  else do
    let response : Option BrowserResponse ←
      .perform (RunnerOp.goto context args.url (args.timeout * 1000))
    let html : String ← .perform (RunnerOp.content context)
    pure (response, html)

/-- The screenshot, if one is asked for; `src/asb_api/workers/asb_runner.py:83–87`. -/
def takeScreenshot (args : RunArgs) (context : Nat) : RunnerProg (Option String) :=
  if args.screenshot ∧ truthy args.screenshotDir then do
    let dir := args.screenshotDir.getD ""
    let _ ← .perform (.makedirs dir)
    let hex : String ← .perform RunnerOp.uuidHex
    let path := pathJoin dir (hex ++ ".png")
    let _ ← .perform (.screenshot context path)
    pure (some path)
  else pure none

/-- The body of the `try`; `src/asb_api/workers/asb_runner.py:66–95`. -/
def scrapePage (methodUpper : String) (args : RunArgs) (headers : Dict String String)
    (body : Option RequestBody) (context : Nat) : RunnerProg RunResult := do
  let (response, html) ← loadPage methodUpper args headers body context
  let cookies : List (String × String) ← .perform (RunnerOp.cookies context)
  let screenshotUrl ← takeScreenshot args context
  pure
    { html := html
      cookies := Dict.ofList cookies
      headers := response.elim Dict.empty (·.headers)
      screenshotUrl := screenshotUrl
      blockDetected := false }

/-- `run`; `src/asb_api/workers/asb_runner.py:41–97`. -/
def run (u : CaseTables) (r : ASBRunner) (args : RunArgs) : RunnerProg RunResult :=
  let methodUpper := methodUpper u args.method
  if methodUpper ∉ ["GET", "POST"] then
    .raise ⟨.valueError, "Unsupported scrape method: " ++ methodUpper⟩
  else if !r.browser then .raise ⟨.runtimeError, "ASBRunner has not been started"⟩
  else do
    let (headers, body) ← .done (prepareBody u.toUnicodeTables args.headers args.data)
    let context : Nat ← .perform (RunnerOp.newContext
      { userAgent := args.fingerprint.userAgent
        width := args.fingerprint.viewport.1
        height := args.fingerprint.viewport.2
        proxy := proxySettings args.proxy
        extraHttpHeaders := headers })
    let _ ← .perform (.newPage context)
    (scrapePage methodUpper args headers body context).tryFinally
      (.perform (RunnerOp.close context))

end ASBRunner

/-! ### The contexts of a browser -/

/-- How many contexts were created, and which of them are still open. -/
structure Contexts where
  created : Nat
  live : List Nat
  deriving DecidableEq

/-- What becomes of each step of a call; a call takes none of them twice. -/
structure StepOutcomes where
  newContext : Except PyError Unit
  newPage : Except PyError Unit
  fetch : Except PyError BrowserResponse
  text : Except PyError String
  setContent : Except PyError Unit
  goto : Except PyError (Option BrowserResponse)
  content : Except PyError String
  cookies : Except PyError (List (String × String))
  makedirs : Except PyError Unit
  uuidHex : String
  screenshot : Except PyError Unit
  close : Except PyError Unit

namespace Contexts

/-- A fresh browser. -/
def new : Contexts := ⟨0, []⟩

/-- The browser creates a context, numbered in order. -/
def opened (s : Contexts) : Contexts := ⟨s.created + 1, s.created :: s.live⟩

/-- The browser closes a context. -/
def closed (s : Contexts) (context : Nat) : Contexts := { s with live := s.live.erase context }

/-- Answer a step of a call. -/
def serve (out : StepOutcomes) : (o : RunnerOp) → Contexts → Except PyError o.Ans × Contexts
  | .newContext _, s =>
    match out.newContext with
    | .ok _ => (.ok s.created, s.opened)
    | .error e => (.error e, s)
  | .newPage _, s => (out.newPage, s)
  | .fetch _ _ _ _ _, s => (out.fetch, s)
  | .text _, s => (out.text, s)
  | .setContent _ _ _, s => (out.setContent, s)
  | .goto _ _ _, s => (out.goto, s)
  | .content _, s => (out.content, s)
  | .cookies _, s => (out.cookies, s)
  | .makedirs _, s => (out.makedirs, s)
  | .uuidHex, s => (.ok out.uuidHex, s)
  | .screenshot _ _, s => (out.screenshot, s)
  | .close context, s =>
    match out.close with
    | .ok _ => (.ok (), s.closed context)
    | .error e => (.error e, s)

end Contexts

/-- A call of `run`, and what becomes of its steps. -/
structure RunCall where
  args : RunArgs
  outcomes : StepOutcomes

/-- One call on a browser. -/
def runStep (u : CaseTables) (r : ASBRunner) (s : Contexts) (c : RunCall) :
    Except PyError RunResult × Contexts :=
  (r.run u c.args).run (Contexts.serve c.outcomes) s

/-- The call gets as far as a context, and then gets no page in it. -/
def RunCall.leaks (u : CaseTables) (r : ASBRunner) (c : RunCall) : Bool :=
  ASBRunner.methodUpper u c.args.method ∈ ["GET", "POST"] && r.browser &&
    (prepareBody u.toUnicodeTables c.args.headers c.args.data).isOk &&
    c.outcomes.newContext.isOk && !c.outcomes.newPage.isOk

/-- The step is about a page that is there, or about no context at all. -/
def RunnerOp.OnPage : RunnerOp → Prop
  | .newContext _ => False
  | .newPage _ => False
  | .close _ => False
  | _ => True

theorem serve_snd_of_onPage (out : StepOutcomes) {o : RunnerOp} (h : o.OnPage) (s : Contexts) :
    (Contexts.serve out o s).2 = s := by
  cases o with
  | newContext options => exact h.elim
  | newPage context => exact h.elim
  | close context => exact h.elim
  | _ => rfl

theorem onPage_loadPage (methodUpper : String) (args : RunArgs) (headers : Dict String String)
    (body : Option RequestBody) (context : Nat) :
    Prog.Only RunnerOp.OnPage (ASBRunner.loadPage methodUpper args headers body context) := by
  unfold ASBRunner.loadPage
  apply Prog.Only.ite
  · refine Prog.Only.bind (Prog.only_perform trivial) fun response ↦ ?_
    refine Prog.Only.bind (Prog.only_perform trivial) fun html ↦ ?_
    exact Prog.Only.bind (Prog.only_perform trivial) fun _ ↦ Prog.only_done _
  · refine Prog.Only.bind (Prog.only_perform trivial) fun response ↦ ?_
    exact Prog.Only.bind (Prog.only_perform trivial) fun html ↦ Prog.only_done _

theorem onPage_takeScreenshot (args : RunArgs) (context : Nat) :
    Prog.Only RunnerOp.OnPage (ASBRunner.takeScreenshot args context) := by
  unfold ASBRunner.takeScreenshot
  apply Prog.Only.ite
  · refine Prog.Only.bind (Prog.only_perform trivial) fun _ ↦ ?_
    refine Prog.Only.bind (Prog.only_perform trivial) fun hex ↦ ?_
    exact Prog.Only.bind (Prog.only_perform trivial) fun _ ↦ Prog.only_done _
  · exact Prog.only_done _

theorem onPage_scrapePage (methodUpper : String) (args : RunArgs) (headers : Dict String String)
    (body : Option RequestBody) (context : Nat) :
    Prog.Only RunnerOp.OnPage (ASBRunner.scrapePage methodUpper args headers body context) := by
  unfold ASBRunner.scrapePage
  apply (onPage_loadPage methodUpper args headers body context).bind
  rintro ⟨response, html⟩
  refine Prog.Only.bind (Prog.only_perform trivial) fun cookies ↦ ?_
  exact (onPage_takeScreenshot args context).bind fun _ ↦ Prog.only_done _

/-- However the page fares, its context is closed. -/
theorem live_tryFinally {out : StepOutcomes} (hclose : out.close = .ok ())
    {p : RunnerProg RunResult} (hp : Prog.Only RunnerOp.OnPage p) (context : Nat) (s : Contexts) :
    ((p.tryFinally (.perform (RunnerOp.close context))).run (Contexts.serve out) s).2 =
      s.closed context := by
  rw [Prog.run_tryFinally, hp.run_state (fun o s ho ↦ serve_snd_of_onPage out ho s)]
  simp only [Prog.run_perform, Contexts.serve, hclose]

/-- A call leaves one more context open if it leaks, and none otherwise. -/
theorem live_runStep (u : CaseTables) (r : ASBRunner) {c : RunCall}
    (hclose : c.outcomes.close = .ok ()) (s : Contexts) :
    (runStep u r s c).2.live = if c.leaks u r then s.created :: s.live else s.live := by
  obtain ⟨args, out⟩ := c
  unfold runStep RunCall.leaks ASBRunner.run
  dsimp only at hclose ⊢
  generalize ASBRunner.methodUpper u args.method = method
  by_cases hmethod : method ∈ ["GET", "POST"]
  · rw [if_neg (not_not.mpr hmethod), decide_eq_true hmethod, Bool.true_and]
    cases hbrowser : r.browser with
    | false => rfl
    | true =>
      rw [if_neg (by decide), Prog.run_bind, Prog.run_done]
      cases hbody : prepareBody u.toUnicodeTables args.headers args.data with
      | error e => rfl
      | ok prepared =>
        obtain ⟨headers, body⟩ := prepared
        dsimp only
        rw [Prog.run_bind, Prog.run_perform, Contexts.serve]
        cases hcontext : out.newContext with
        | error e => rfl
        | ok _ =>
          dsimp only
          rw [Prog.run_bind, Prog.run_perform, Contexts.serve]
          cases hpage : out.newPage with
          | error e => rfl
          | ok _ =>
            dsimp only
            rw [live_tryFinally hclose (onPage_scrapePage _ _ _ _ _)]
            exact List.erase_cons_head _ _
  · rw [if_pos hmethod, decide_eq_false hmethod]
    rfl

/-! ### Runs of calls -/

section Calls

variable (u : CaseTables) (r : ASBRunner) {calls : List RunCall}

/-- After any run of calls as many contexts are open as calls have leaked one. -/
theorem length_live_final (hclose : ∀ c ∈ calls, c.outcomes.close = .ok ()) :
    (final (runStep u r) .new calls).live.length = calls.countP (·.leaks u r) := by
  induction calls using List.reverseRecOn with
  | nil => rfl
  | append_singleton calls c ih =>
    obtain ⟨hbefore, hc⟩ := List.forall_mem_append.mp hclose
    rw [final_append, final_cons, final_nil, List.countP_append, List.countP_singleton,
      live_runStep u r (hc c List.mem_cons_self), ← ih hbefore]
    split
    · exact List.length_cons
    · rfl

/-- Between any two calls of a run, no context is open. -/
def ContextsClosed (calls : List RunCall) : Prop :=
  ∀ n, (Base.before (runStep u r) .new calls n).live = []

/-- No context is left open exactly if no call gets a context and then no page in it. -/
theorem contextsClosed_iff (hclose : ∀ c ∈ calls, c.outcomes.close = .ok ()) :
    ContextsClosed u r calls ↔ ∀ c ∈ calls, c.leaks u r = false := by
  constructor
  · intro h
    have hopen : (final (runStep u r) .new calls).live = [] := by
      rw [← before_of_length_le le_rfl]
      exact h calls.length
    have hcount := length_live_final u r hclose
    rw [hopen, List.length_nil] at hcount
    simpa using List.countP_eq_zero.mp hcount.symm
  · intro h n
    have hsub : calls.take n ⊆ calls := List.take_subset n calls
    have hcount := length_live_final u r fun c hc ↦ hclose c (hsub hc)
    apply List.eq_nil_of_length_eq_zero
    rw [Base.before, hcount, List.countP_eq_zero]
    intro c hc
    rw [h c (hsub hc)]
    exact Bool.false_ne_true

end Calls

private def asciiTables : CaseTables := ⟨⟨id, id, some, some⟩, id⟩

private def plainGet : RunArgs where
  url := "https://example.com/"
  method := some "get"
  headers := none
  data := .none
  proxy := none
  fingerprint := ⟨⟨"Mozilla/5.0"⟩, (1920, 1080)⟩
  timeout := 30
  screenshot := false
  screenshotDir := none

/-- Every step works but those given. -/
private def allWork (newPage : Except PyError Unit)
    (goto : Except PyError (Option BrowserResponse)) : StepOutcomes where
  newContext := .ok ()
  newPage := newPage
  fetch := .ok ⟨Dict.empty⟩
  text := .ok ""
  setContent := .ok ()
  goto := goto
  content := .ok ""
  cookies := .ok []
  makedirs := .ok ()
  uuidHex := "0123456789abcdef0123456789abcdef"
  screenshot := .ok ()
  close := .ok ()

private def timedOut : PyError := ⟨.other, "Timeout 30000ms exceeded."⟩

/-- A call that works and one whose navigation fails leave no context open. -/
theorem contextsClosed_iff_sample :
    ContextsClosed asciiTables ⟨true, true⟩
      [⟨plainGet, allWork (.ok ()) (.ok none)⟩, ⟨plainGet, allWork (.ok ()) (.error timedOut)⟩] :=
  (contextsClosed_iff asciiTables ⟨true, true⟩ (by simp [allWork])).mpr (by decide +kernel)

/-- A context without a page stays open. -/
theorem not_contextsClosed : ¬ ∀ (u : CaseTables) (r : ASBRunner) (calls : List RunCall),
    r.browser = true → (∀ c ∈ calls, c.outcomes.close = .ok ()) → ContextsClosed u r calls := by
  intro h
  have hopen := h asciiTables ⟨true, true⟩
    [⟨plainGet, allWork (.error ⟨.other, "Target closed"⟩) (.ok none)⟩] rfl (by simp [allWork]) 1
  revert hopen
  decide +kernel

end AsbCloudApi.Workers
