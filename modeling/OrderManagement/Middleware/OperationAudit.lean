import OrderManagement.Library.Utf8
import OrderManagement.Service.Inventory

/-
  The handlers that a request of an administrator goes
  through, and the record that is made of it in the table
  `operation_logs`. Strings of a request are bytes.

  Main declarations:
    * `HTTPRequest`, `Route` and `adminRoutes`
    * `createOperationLog`
    * `Middleware.recovery` and `Middleware.operationAudit`
    * `Server.serve`
    * `Audited` and `audited_iff`
-/

namespace OrderManagement

------------------------------------------------------------
-- Requests
------------------------------------------------------------

/- An address that gin reports. What `net.ParseIP` accepts
   is no longer. -/
structure ClientIP where
  text : String
  length_le : text.length ≤ 45

/- A new UUID in its usual notation. -/
structure UUID where
  text : String
  length_eq : text.length = 36

/- The user of a valid token, which was issued for a row of
   `users`. -/
structure Identity where
  userID : Int
  username : String
  userID_pos : 0 < userID
  username_length : username.length ≤ 64

/- A status that net/http can send. -/
structure HTTPStatus where
  code : Nat
  code_ge : 100 ≤ code
  code_le : code ≤ 999
deriving DecidableEq

/- The header `X-Request-ID` is empty if it is not sent. The
   path is the decoded one. -/
structure HTTPRequest where
  method : String
  path : ByteArray
  authorization : ByteArray
  requestID : ByteArray
  userAgent : String
  clientIP : ClientIP
  body : ByteArray

/- The segments of a path. -/
def pathSegments
    (path : ByteArray) : List (List UInt8) :=
  path.data.toList.splitOn '/'.toUInt8

structure Route where
  method : String
  template : String
deriving DecidableEq

/- A segment with a colon stands for any segment. -/
def Route.Matches
    (route : Route)
    (request : HTTPRequest) : Bool :=
  let patterns := pathSegments route.template.toByteArray
  let segments := pathSegments request.path
  route.method = request.method &&
    patterns.length = segments.length &&
      (patterns.zip segments).all fun (pattern, segment) =>
        pattern.head? = some ':'.toUInt8 || pattern = segment

/- The routes that are registered with the middlewares for
   administrators. -/
def adminRoutes : List Route :=
  [ ⟨"POST", "/api/v1/products"⟩,
    ⟨"PATCH", "/api/v1/products/:id/on-sale"⟩,
    ⟨"PATCH", "/api/v1/products/:id/off-sale"⟩,
    ⟨"POST", "/api/v1/inventory/init"⟩,
    ⟨"POST", "/api/v1/inventory/add"⟩,
    ⟨"POST", "/api/v1/inventory/redis/rebuild"⟩,
    ⟨"GET", "/api/v1/inventory/redis/reconcile"⟩,
    ⟨"GET", "/api/v1/stock-logs"⟩,
    ⟨"GET", "/api/v1/operation-logs"⟩,
    ⟨"GET", "/api/v1/admin/orders"⟩ ]

def adminRoute
    (request : HTTPRequest) : Option Route :=
  adminRoutes.find? fun route => route.Matches request

------------------------------------------------------------
-- operation_logs
------------------------------------------------------------

/- `model.OperationLog`, without the columns that the
   database fills. -/
structure OperationLog where
  userID : Int
  username : String
  action : String
  method : String
  path : ByteArray
  route : String
  httpStatus : HTTPStatus
  requestID : ByteArray
  clientIP : String
  userAgent : ByteArray

/- A stored row. -/
structure OperationLogRow where
  userID : Int
  username : String
  action : String
  method : String
  path : String
  route : String
  httpStatus : HTTPStatus
  requestID : String
  clientIP : String
  userAgent : String
deriving DecidableEq

/- The row that a log is stored as, if all of its texts fit
   their columns. -/
def OperationLog.row?
    (log : OperationLog) : Option OperationLogRow := do
  let username ← Utf8.varchar 64 log.username.toByteArray
  let action ← Utf8.varchar 128 log.action.toByteArray
  let method ← Utf8.varchar 16 log.method.toByteArray
  let path ← Utf8.varchar 255 log.path
  let route ← Utf8.varchar 255 log.route.toByteArray
  let requestID ← Utf8.varchar 36 log.requestID
  let clientIP ← Utf8.varchar 64 log.clientIP.toByteArray
  let userAgent ← Utf8.varchar 255 log.userAgent
  return {
    userID := log.userID
    username := username
    action := action
    method := method
    path := path
    route := route
    httpStatus := log.httpStatus
    requestID := requestID
    clientIP := clientIP
    userAgent := userAgent }

/- `none` is an error of the database. -/
def createOperationLog
    (log : OperationLog)
    (rows : List OperationLogRow) :
    Option (List OperationLogRow) :=
  log.row?.map fun row => rows ++ [row]

------------------------------------------------------------
-- Middlewares
------------------------------------------------------------

/- What the handlers read and write of a `gin.Context`. -/
structure GinContext where
  request : HTTPRequest
  route : Route
  requestID : Option ByteArray
  userID : Option Int
  username : Option String
  status : HTTPStatus
  written : Bool

/- A handler returns or it panics. -/
inductive HandlerEnd
| returned
| panicked

/- Handlers act on the context and on `operation_logs`. -/
abbrev GinHandler :=
  GinContext → List OperationLogRow →
    HandlerEnd × GinContext × List OperationLogRow

/- `response.Fail` and `c.Abort`. -/
def GinContext.fail
    (c : GinContext)
    (status : HTTPStatus) : GinContext :=
  { c with
    status := status
    written := true }

/- `OperationAuditRecorder`, where `none` is an error. -/
abbrev OperationAuditRecorder :=
  OperationLog → List OperationLogRow →
    Option (List OperationLogRow)

def ensureRequestID
    (newID : UUID)
    (r : HTTPRequest) : ByteArray :=
  if r.requestID.size = 0 then
    newID.text.toByteArray
  else
    r.requestID

def getRequestID
    (c : GinContext) : ByteArray :=
  c.requestID.getD ByteArray.empty

def buildOperationAction
    (method route : String) : String :=
  ProductService.trimSpace (method ++ " " ++ route)

def truncateString
    (value : String)
    (maxLength : Nat) : ByteArray :=
  Utf8.truncate maxLength value

/- The log of a request. `FullPath` is not empty where a
   route was found. -/
def GinContext.operationLog
    (c : GinContext)
    (id : Int) : OperationLog where
  userID := id
  username := c.username.getD ""
  action :=
    buildOperationAction c.request.method c.route.template
  method := c.request.method
  path := c.request.path
  route := c.route.template
  httpStatus := c.status
  requestID := getRequestID c
  clientIP := c.request.clientIP.text
  userAgent := truncateString c.request.userAgent 255

namespace Middleware

def requestID
    (newID : UUID)
    (next : GinHandler) : GinHandler :=
  fun c rows =>
    next
      { c with
        requestID := some (ensureRequestID newID c.request) }
      rows

def recovery
    (next : GinHandler) : GinHandler :=
  fun c rows =>
    match next c rows with
    | (.returned, c, rows) => (.returned, c, rows)
    | (.panicked, c, rows) =>
        if c.written then
          (.returned, c, rows)
        else
          (.returned,
            c.fail ⟨500, by decide, by decide⟩, rows)

/- The check of the header is a parameter; `Middleware.Auth`
   has the one of a token manager. -/
def authMiddleware
    (authenticate : ByteArray → Option Identity)
    (next : GinHandler) : GinHandler :=
  fun c rows =>
    match authenticate c.request.authorization with
    | none =>
        (.returned,
          c.fail ⟨401, by decide, by decide⟩, rows)
    | some identity =>
        next
          { c with
            userID := some identity.userID
            username := some identity.username }
          rows

/- `hasRole` has no answer if the query fails. -/
def adminMiddleware
    (hasRole : Int → Option Bool)
    (next : GinHandler) : GinHandler :=
  fun c rows =>
    match c.userID with
    | none =>
        (.returned,
          c.fail ⟨401, by decide, by decide⟩, rows)
    | some userID =>
        if userID ≤ 0 then
          (.returned,
            c.fail ⟨401, by decide, by decide⟩, rows)
        else
          match hasRole userID with
          | none =>
              (.returned,
                c.fail ⟨500, by decide, by decide⟩, rows)
          | some false =>
              (.returned,
                c.fail ⟨403, by decide, by decide⟩, rows)
          | some true => next c rows

/- What is done after `c.Next`. An error is dropped. -/
def auditReturned
    (recorder : Option OperationAuditRecorder)
    (c : GinContext)
    (rows : List OperationLogRow) : List OperationLogRow :=
  match recorder, c.userID with
  | some createOperationLog, some id =>
      if id ≤ 0 then
        rows
      else
        (createOperationLog (c.operationLog id) rows).getD rows
  | _, _ => rows

/- A panic of `c.Next` passes the rest of the function. -/
def operationAudit
    (recorder : Option OperationAuditRecorder)
    (next : GinHandler) : GinHandler :=
  fun c rows =>
    match next c rows with
    | (.returned, c, rows) =>
        (.returned, c, auditReturned recorder c rows)
    | (.panicked, c, rows) => (.panicked, c, rows)

end Middleware

------------------------------------------------------------
-- The Server
------------------------------------------------------------

/- How the handler of a route ends. -/
structure HandlerReply where
  panics : Bool
  status : HTTPStatus
  written : Bool

/- The checks of the token and of the role, and the handlers
   of the routes, which leave `operation_logs` alone. -/
structure Server where
  authenticate : ByteArray → Option Identity
  hasRole : Int → Option Bool
  handle : Route → HTTPRequest → HandlerReply

def Server.handler
    (server : Server) : GinHandler :=
  fun c rows =>
    let reply := server.handle c.route c.request
    (if reply.panics then .panicked else .returned,
      { c with
        status := reply.status
        written := reply.written },
      rows)

def Server.chain
    (server : Server)
    (newID : UUID) : GinHandler :=
  Middleware.requestID newID
    (Middleware.recovery
      (Middleware.authMiddleware server.authenticate
        (Middleware.adminMiddleware server.hasRole
          (Middleware.operationAudit (some createOperationLog)
            server.handler))))

/- The status that is answered and the table afterwards. Of
   the routes, only those for administrators are here. -/
def Server.serve
    (server : Server)
    (newID : UUID)
    (request : HTTPRequest)
    (rows : List OperationLogRow) :
    HTTPStatus × List OperationLogRow :=
  match adminRoute request with
  | none => (⟨404, by decide, by decide⟩, rows)
  | some route =>
      let (_, c, rows) :=
        server.chain newID
          { request := request
            route := route
            requestID := none
            userID := none
            username := none
            status := ⟨200, by decide, by decide⟩
            written := false }
          rows
      (c.status, rows)

------------------------------------------------------------
-- What Fits
------------------------------------------------------------

/- Every text of a log fits its column. -/
structure OperationLog.Fits
    (log : OperationLog) : Prop where
  username : Utf8.Fits 64 log.username.toByteArray
  action : Utf8.Fits 128 log.action.toByteArray
  method : Utf8.Fits 16 log.method.toByteArray
  path : Utf8.Fits 255 log.path
  route : Utf8.Fits 255 log.route.toByteArray
  requestID : Utf8.Fits 36 log.requestID
  clientIP : Utf8.Fits 64 log.clientIP.toByteArray
  userAgent : Utf8.Fits 255 log.userAgent

/- A row is what the columns make of a log. -/
structure OperationLogRow.Of
    (row : OperationLogRow)
    (log : OperationLog) : Prop where
  userID : row.userID = log.userID
  username :
    Utf8.varchar 64 log.username.toByteArray =
      some row.username
  action :
    Utf8.varchar 128 log.action.toByteArray = some row.action
  method :
    Utf8.varchar 16 log.method.toByteArray = some row.method
  path : Utf8.varchar 255 log.path = some row.path
  route :
    Utf8.varchar 255 log.route.toByteArray = some row.route
  httpStatus : row.httpStatus = log.httpStatus
  requestID : Utf8.varchar 36 log.requestID = some row.requestID
  clientIP :
    Utf8.varchar 64 log.clientIP.toByteArray =
      some row.clientIP
  userAgent : Utf8.varchar 255 log.userAgent = some row.userAgent

theorem OperationLog.row?_eq_some_iff
    {log : OperationLog}
    {row : OperationLogRow} :
    log.row? = some row ↔ row.Of log := by
  simp only [OperationLog.row?, Option.pure_def,
    Option.bind_eq_bind, Option.bind_eq_some_iff]
  constructor
  · rintro ⟨_, hUsername, _, hAction, _, hMethod, _, hPath, _,
      hRoute, _, hRequestID, _, hClientIP, _, hUserAgent,
      ⟨⟩⟩
    exact ⟨rfl, hUsername, hAction, hMethod, hPath, hRoute,
      rfl, hRequestID, hClientIP, hUserAgent⟩
  · rcases row with ⟨⟩
    rintro ⟨rfl, hUsername, hAction, hMethod, hPath, hRoute,
      rfl, hRequestID, hClientIP, hUserAgent⟩
    exact ⟨_, hUsername, _, hAction, _, hMethod, _, hPath, _,
      hRoute, _, hRequestID, _, hClientIP, _, hUserAgent, rfl⟩

/- A log is stored if and only if all of it fits. -/
theorem OperationLog.fits_iff
    {log : OperationLog} :
    log.Fits ↔ ∃ row : OperationLogRow, row.Of log := by
  constructor
  · intro hFits
    rcases Utf8.exists_varchar_iff.mpr hFits.username with
      ⟨username, hUsername⟩
    rcases Utf8.exists_varchar_iff.mpr hFits.action with
      ⟨action, hAction⟩
    rcases Utf8.exists_varchar_iff.mpr hFits.method with
      ⟨method, hMethod⟩
    rcases Utf8.exists_varchar_iff.mpr hFits.path with
      ⟨path, hPath⟩
    rcases Utf8.exists_varchar_iff.mpr hFits.route with
      ⟨route, hRoute⟩
    rcases Utf8.exists_varchar_iff.mpr hFits.requestID with
      ⟨requestID, hRequestID⟩
    rcases Utf8.exists_varchar_iff.mpr hFits.clientIP with
      ⟨clientIP, hClientIP⟩
    rcases Utf8.exists_varchar_iff.mpr hFits.userAgent with
      ⟨userAgent, hUserAgent⟩
    exact
      ⟨⟨log.userID, username, action, method, path, route,
          log.httpStatus, requestID, clientIP, userAgent⟩,
        ⟨rfl, hUsername, hAction, hMethod, hPath, hRoute, rfl,
          hRequestID, hClientIP, hUserAgent⟩⟩
  · rintro ⟨row, hOf⟩
    exact
      { username := Utf8.fits_of_varchar hOf.username
        action := Utf8.fits_of_varchar hOf.action
        method := Utf8.fits_of_varchar hOf.method
        path := Utf8.fits_of_varchar hOf.path
        route := Utf8.fits_of_varchar hOf.route
        requestID := Utf8.fits_of_varchar hOf.requestID
        clientIP := Utf8.fits_of_varchar hOf.clientIP
        userAgent := Utf8.fits_of_varchar hOf.userAgent }

theorem length_trimSpace_le
    (s : String) :
    (ProductService.trimSpace s).length ≤ s.length := by
  unfold ProductService.trimSpace
  rw [String.length_ofList, List.length_reverse]
  have hLeft :=
    (List.dropWhile_sublist (l := s.toList) isSpace).length_le
  have hRight :=
    (List.dropWhile_sublist
      (l := (s.toList.dropWhile isSpace).reverse)
      isSpace).length_le
  rw [List.length_reverse] at hRight
  exact hRight.trans (hLeft.trans String.length_toList.le)

/- How long the server's own texts are. -/
theorem adminRoutes_length :
    ∀ route ∈ adminRoutes,
      route.method.length ≤ 16 ∧
        route.template.length ≤ 100 := by
  decide +kernel

theorem length_buildOperationAction_le
    (method route : String) :
    (buildOperationAction method route).length ≤
      method.length + 1 + route.length := by
  refine (length_trimSpace_le _).trans ?_
  rw [String.length_append, String.length_append]
  exact le_rfl

/- The log of a request that a handler has answered. -/
def requestLog
    (newID : UUID)
    (identity : Identity)
    (route : Route)
    (request : HTTPRequest)
    (status : HTTPStatus) : OperationLog where
  userID := identity.userID
  username := identity.username
  action := buildOperationAction request.method route.template
  method := request.method
  path := request.path
  route := route.template
  httpStatus := status
  requestID := ensureRequestID newID request
  clientIP := request.clientIP.text
  userAgent := truncateString request.userAgent 255

/- The three texts of a log that a client has a say in. -/
structure HTTPRequest.Fits
    (request : HTTPRequest) : Prop where
  requestID : Utf8.Fits 36 request.requestID
  path : Utf8.Fits 255 request.path
  userAgent : Utf8.EndsAt 255 request.userAgent

theorem fits_ensureRequestID_iff
    {newID : UUID}
    {request : HTTPRequest} :
    Utf8.Fits 36 (ensureRequestID newID request) ↔
      Utf8.Fits 36 request.requestID := by
  unfold ensureRequestID
  split
  case isTrue hEmpty =>
    refine iff_of_true (Utf8.fits_of_length_le ?_) ?_
    · exact newID.length_eq.le
    · have hNone : request.requestID = "".toByteArray :=
        ByteArray.size_eq_zero_iff.mp hEmpty
      rw [hNone]
      exact Utf8.fits_of_length_le (Nat.zero_le 36)
  case isFalse => exact Iff.rfl

theorem adminRoute_spec
    {request : HTTPRequest}
    {route : Route}
    (hRoute : adminRoute request = some route) :
    route ∈ adminRoutes ∧ route.method = request.method := by
  have hMatches := List.find?_some hRoute
  unfold Route.Matches at hMatches
  simp only [Bool.and_eq_true, decide_eq_true_eq] at hMatches
  exact ⟨List.mem_of_find?_eq_some hRoute, hMatches.1.1⟩

theorem requestLog_fits_iff
    {newID : UUID}
    {identity : Identity}
    {route : Route}
    {request : HTTPRequest}
    {status : HTTPStatus}
    (hRoute : adminRoute request = some route) :
    (requestLog newID identity route request status).Fits ↔
      request.Fits := by
  rcases adminRoute_spec hRoute with ⟨hListed, hMethod⟩
  rcases adminRoutes_length route hListed with
    ⟨hMethodLength, hTemplate⟩
  rw [hMethod] at hMethodLength
  have hAction :=
    length_buildOperationAction_le request.method
      route.template
  have hAgent :
      Utf8.Fits 255 (truncateString request.userAgent 255) ↔
        Utf8.EndsAt 255 request.userAgent := by
    rw [truncateString, Utf8.truncate_eq_cut]
    exact Utf8.fits_cut_iff
  constructor
  · intro hFits
    exact
      { requestID := fits_ensureRequestID_iff.mp hFits.requestID
        path := hFits.path
        userAgent := hAgent.mp hFits.userAgent }
  · intro hFits
    have hAddress : request.clientIP.text.length ≤ 64 :=
      request.clientIP.length_le.trans (by decide)
    exact
      { username :=
          Utf8.fits_of_length_le identity.username_length
        action :=
          Utf8.fits_of_length_le (hAction.trans (by omega))
        method := Utf8.fits_of_length_le hMethodLength
        path := hFits.path
        route :=
          Utf8.fits_of_length_le (hTemplate.trans (by decide))
        requestID := fits_ensureRequestID_iff.mpr hFits.requestID
        clientIP := Utf8.fits_of_length_le hAddress
        userAgent := hAgent.mpr hFits.userAgent }

------------------------------------------------------------
-- The Record of a Request
------------------------------------------------------------

/- Recording adds one row or changes nothing. -/
theorem createOperationLog_of_fits
    {log : OperationLog}
    (rows : List OperationLogRow)
    (hFits : log.Fits) :
    ∃ row : OperationLogRow,
      row.Of log ∧
        createOperationLog log rows = some (rows ++ [row]) := by
  rcases OperationLog.fits_iff.mp hFits with ⟨row, hOf⟩
  refine ⟨row, hOf, ?_⟩
  rw [createOperationLog,
    OperationLog.row?_eq_some_iff.mpr hOf, Option.map_some]

theorem createOperationLog_of_not_fits
    {log : OperationLog}
    (rows : List OperationLogRow)
    (hFits : ¬ log.Fits) :
    createOperationLog log rows = none := by
  rw [createOperationLog, Option.map_eq_none_iff,
    Option.eq_none_iff_forall_ne_some]
  intro row hRow
  exact hFits (OperationLog.fits_iff.mpr
    ⟨row, OperationLog.row?_eq_some_iff.mp hRow⟩)

variable
  {server : Server}
  {request : HTTPRequest}
  {route : Route}
  {identity : Identity}

/- How a request of an administrator is served. -/
theorem serve_of_admin
    (newID : UUID)
    (rows : List OperationLogRow)
    (hRoute : adminRoute request = some route)
    (hAuth :
      server.authenticate request.authorization =
        some identity)
    (hAdmin : server.hasRole identity.userID = some true) :
    (server.serve newID request rows).2 =
      if (server.handle route request).panics then
        rows
      else
        (createOperationLog
          (requestLog newID identity route request
            (server.handle route request).status) rows).getD
            rows := by
  have hPositive : ¬ identity.userID ≤ 0 :=
    Int.not_le.mpr identity.userID_pos
  unfold Server.serve Server.chain
  simp only [hRoute, Middleware.requestID,
    Middleware.recovery, Middleware.authMiddleware, hAuth,
    Middleware.adminMiddleware, hPositive, if_false, hAdmin,
    Middleware.operationAudit, Server.handler]
  cases (server.handle route request).panics with
  | true =>
      rw [if_pos rfl, if_pos rfl]
      dsimp only
      split <;> rfl
  | false => exact if_neg hPositive

/- The table has one more row, which tells of the request. -/
def Audited
    (newID : UUID)
    (identity : Identity)
    (route : Route)
    (request : HTTPRequest)
    (status : HTTPStatus)
    (rows rows' : List OperationLogRow) : Prop :=
  ∃ row : OperationLogRow,
    row.Of (requestLog newID identity route request status) ∧
      rows' = rows ++ [row]

theorem not_audited_self
    {newID : UUID}
    {status : HTTPStatus}
    (rows : List OperationLogRow) :
    ¬ Audited newID identity route request status rows
      rows := by
  rintro ⟨row, _, hEq⟩
  simp at hEq

theorem serve_of_recorded
    (newID : UUID)
    (rows : List OperationLogRow)
    (hRoute : adminRoute request = some route)
    (hAuth :
      server.authenticate request.authorization =
        some identity)
    (hAdmin : server.hasRole identity.userID = some true)
    (hReturns : (server.handle route request).panics = false)
    (hFits : request.Fits) :
    Audited newID identity route request
      (server.handle route request).status rows
      (server.serve newID request rows).2 := by
  rw [serve_of_admin newID rows hRoute hAuth hAdmin, hReturns,
    if_neg Bool.false_ne_true]
  rcases createOperationLog_of_fits rows
    ((requestLog_fits_iff hRoute).mpr hFits) with
    ⟨row, hOf, hCreate⟩
  rw [hCreate]
  exact ⟨row, hOf, rfl⟩

/- A panic, or a text that does not fit, leaves no trace. -/
theorem serve_of_unrecorded
    (newID : UUID)
    (rows : List OperationLogRow)
    (hRoute : adminRoute request = some route)
    (hAuth :
      server.authenticate request.authorization =
        some identity)
    (hAdmin : server.hasRole identity.userID = some true)
    (hUnrecorded :
      ¬ ((server.handle route request).panics = false ∧
        request.Fits)) :
    (server.serve newID request rows).2 = rows := by
  rw [serve_of_admin newID rows hRoute hAuth hAdmin]
  split
  case isTrue => rfl
  case isFalse hReturns =>
    have hFits : ¬ request.Fits := fun hFits =>
      hUnrecorded ⟨Bool.eq_false_iff.mpr hReturns, hFits⟩
    rw [createOperationLog_of_not_fits rows
      (mt (requestLog_fits_iff hRoute).mp hFits)]
    rfl

/-
  A request of an administrator is recorded once if and only
  if its handler does not panic and its id, its path and its
  user agent fit. Otherwise nothing is recorded.
-/
theorem audited_iff
    (newID : UUID)
    (rows : List OperationLogRow)
    (hRoute : adminRoute request = some route)
    (hAuth :
      server.authenticate request.authorization =
        some identity)
    (hAdmin : server.hasRole identity.userID = some true) :
    (Audited newID identity route request
        (server.handle route request).status rows
        (server.serve newID request rows).2 ↔
      (server.handle route request).panics = false ∧
        request.Fits) ∧
    (¬ ((server.handle route request).panics = false ∧
        request.Fits) →
      (server.serve newID request rows).2 = rows) := by
  have hUnrecorded :=
    serve_of_unrecorded newID rows hRoute hAuth hAdmin
  refine ⟨⟨fun hAudited => ?_, ?_⟩, hUnrecorded⟩
  · by_contra hNot
    rw [hUnrecorded hNot] at hAudited
    exact not_audited_self rows hAudited
  · rintro ⟨hReturns, hFits⟩
    exact serve_of_recorded newID rows hRoute hAuth hAdmin
      hReturns hFits

------------------------------------------------------------
-- A Request without a Record
------------------------------------------------------------

def administrator : Identity where
  userID := 1
  username := "admin"
  userID_pos := by decide
  username_length := by decide

/- Every token is the administrator's, and every handler
   answers with 200. -/
def openServer : Server where
  authenticate _ := some administrator
  hasRole userID := some (userID = 1)
  handle _ _ :=
    { panics := false
      status := ⟨200, by decide, by decide⟩
      written := true }

def firstUUID : UUID where
  text := "00000000-0000-4000-8000-000000000001"
  length_eq := by decide +kernel

/- Putting a product on sale, under an id of the client. -/
def onSaleRequest
    (requestID : String) : HTTPRequest where
  method := "PATCH"
  path := "/api/v1/products/9/on-sale".toByteArray
  authorization := "Bearer token".toByteArray
  requestID := requestID.toByteArray
  userAgent := "curl"
  clientIP := ⟨"192.0.2.1", by decide +kernel⟩
  body := ByteArray.empty

def onSaleRoute : Route where
  method := "PATCH"
  template := "/api/v1/products/:id/on-sale"

theorem audited_iff_onSale :
    (Audited firstUUID administrator onSaleRoute
        (onSaleRequest "")
        (openServer.handle onSaleRoute
          (onSaleRequest "")).status []
        (openServer.serve firstUUID (onSaleRequest "") []).2 ↔
      (openServer.handle onSaleRoute
          (onSaleRequest "")).panics = false ∧
        (onSaleRequest "").Fits) ∧
    (¬ ((openServer.handle onSaleRoute
          (onSaleRequest "")).panics = false ∧
        (onSaleRequest "").Fits) →
      (openServer.serve firstUUID (onSaleRequest "") []).2 =
        []) :=
  audited_iff firstUUID [] (by decide +kernel) rfl
    (by decide)

def longRequestID : String :=
  "0123456789012345678901234567890123456"

/- An id of 37 characters, and the record is suppressed. -/
theorem long_requestID_unrecorded :
    adminRoute (onSaleRequest longRequestID) =
        some onSaleRoute ∧
      openServer.authenticate
          (onSaleRequest longRequestID).authorization =
            some administrator ∧
        openServer.hasRole administrator.userID = some true ∧
          (openServer.serve firstUUID
            (onSaleRequest longRequestID) []).2 = [] := by
  have hRoute :
      adminRoute (onSaleRequest longRequestID) =
        some onSaleRoute := by
    decide +kernel
  have hLast : '6' ∈ longRequestID.toList.drop 36 := by
    decide +kernel
  refine ⟨hRoute, rfl, by decide, ?_⟩
  refine serve_of_unrecorded firstUUID [] hRoute rfl
    (by decide) ?_
  rintro ⟨_, hFits⟩
  exact absurd
    (Utf8.fits_toByteArray_iff.mp hFits.requestID '6' hLast)
    (by decide)

end OrderManagement
