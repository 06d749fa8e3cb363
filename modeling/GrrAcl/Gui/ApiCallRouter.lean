import GrrAcl.Security.Approval

/-! `ApiCallRouterWithApprovalChecks`: the checks the API router asks its access manager for before it hands a call on. -/

namespace GrrAcl

/-- The checks of `user_managers.FullAccessControlManager`, the router's `legacy_manager`; `user_managers` is not under src/. -/
structure LegacyAccessManager where
  /-- `CheckClientAccess(token, client_urn)`. -/
  checkClientAccess : ACLToken → RDFURN → Except Error Unit
  /-- `CheckHuntAccess(token, hunt_urn)`. -/
  checkHuntAccess : ACLToken → RDFURN → Except Error Unit
  /-- `CheckCronJobAccess(token, cron_job_urn)`. -/
  checkCronJobAccess : ACLToken → RDFURN → Except Error Unit
  /-- `CheckIfCanStartFlow(token, flow_name)`. -/
  checkIfCanStartFlow : ACLToken → String → Except Error Unit

/-- What the router is built with, and what it reads besides a call's arguments. -/
structure RouterEnv where
  /-- The `legacy_manager` the router is built with. -/
  legacyManager : LegacyAccessManager
  /-- `user_managers.CheckUserForLabels(username, labels)`. -/
  checkUserForLabels : String → List String → Except Error Unit
  /--
  The creator of the hunt `aff4.FACTORY.Open` returns as a `GRRHunt` at a URN, none when it raises
  `InstantiationError`; `hunts/implementation` is not under src/.
  -/
  huntCreator : RDFURN → Option String

/-- The fields of a call's arguments the router's checks read; the rest is handed on unread. -/
structure ApiArgs where
  /-- `args.client_id`. -/
  clientId : String
  /-- `args.hunt_id`. -/
  huntId : String
  /-- `args.cron_job_id`. -/
  cronJobId : String
  /-- `args.flow.name`, empty when unset. -/
  flowName : String
  /-- `args.flow.runner_args.flow_name`. -/
  runnerFlowName : String

namespace ApiCallRouterWithApprovalChecks

variable (env : RouterEnv)

/-- `CheckClientAccess(client_id)`: the legacy manager's check of `client_id.ToClientURN()`. -/
def checkClientAccess (clientId : String) (token : ACLToken) : Except Error Unit := do
  env.legacyManager.checkClientAccess token (← clientURN clientId)

/-- `CheckHuntAccess(hunt_id)`: the legacy manager's check of `hunt_id.ToURN()`, `aff4:/hunts/<id>`. -/
def checkHuntAccess (huntId : String) (token : ACLToken) : Except Error Unit :=
  env.legacyManager.checkHuntAccess token ((rootUrn.add "hunts").add huntId)

/-- `CheckCronJobAccess(cron_job_id)`: the legacy manager's check of `CRON_JOBS_PATH.Add(cron_job_id)`. -/
def checkCronJobAccess (cronJobId : String) (token : ACLToken) : Except Error Unit :=
  env.legacyManager.checkCronJobAccess token ((rootUrn.add "cron").add cronJobId)

/-- `CheckIfCanStartClientFlow(flow_name)`. -/
def checkIfCanStartClientFlow (flowName : String) (token : ACLToken) : Except Error Unit :=
  env.legacyManager.checkIfCanStartFlow token flowName

/-- `CheckIfUserIsAdmin()`: the user carries the `admin` label. -/
def checkIfUserIsAdmin (token : ACLToken) : Except Error Unit :=
  env.checkUserForLabels token.username ["admin"]

/-- `_GetHuntObj(hunt_id)`: the creator of the hunt, or `ResourceNotFoundError` when it cannot be opened. -/
def getHuntObj (huntId : String) : Except Error String :=
  match env.huntCreator ((rootUrn.add "hunts").add huntId) with
  | some creator => .ok creator
  | none => .error (.resourceNotFoundError ("Hunt with id " ++ huntId ++ " could not be found"))

end ApiCallRouterWithApprovalChecks

/-- A check the router makes before handing a call on. -/
inductive AccessCheck where
  /-- `CheckClientAccess(args.client_id)`. -/
  | client
  /-- `CheckHuntAccess(args.hunt_id)`. -/
  | hunt
  /-- `CheckCronJobAccess(args.cron_job_id)`. -/
  | cronJob
  /-- `CheckIfCanStartClientFlow(args.flow.name or args.flow.runner_args.flow_name)`. -/
  | startFlow
  /-- `CheckIfUserIsAdmin()`. -/
  | admin
  deriving DecidableEq

/-- The check made on a call's arguments and token. -/
def AccessCheck.run (env : RouterEnv) (args : ApiArgs) (token : ACLToken) : AccessCheck → Except Error Unit
  | .client => ApiCallRouterWithApprovalChecks.checkClientAccess env args.clientId token
  | .hunt => ApiCallRouterWithApprovalChecks.checkHuntAccess env args.huntId token
  | .cronJob => ApiCallRouterWithApprovalChecks.checkCronJobAccess env args.cronJobId token
  -- An unset flow name is empty, and `or` then takes the runner's.
  | .startFlow => ApiCallRouterWithApprovalChecks.checkIfCanStartClientFlow env
      (if args.flowName = "" then args.runnerFlowName else args.flowName) token
  | .admin => ApiCallRouterWithApprovalChecks.checkIfUserIsAdmin env token

/-- Checks made one after another, the first that raises ending the call. -/
def runChecks (env : RouterEnv) (args : ApiArgs) (token : ACLToken) : List AccessCheck → Except Error Unit
  | [] => .ok ()
  | check :: rest => do
    check.run env args token
    runChecks env args token rest

/-- The methods of the API router, in the order and sections of `ApiCallRouterWithApprovalChecks`. -/
inductive ApiMethod where
  -- Artifacts methods.
  | listArtifacts | uploadArtifact | deleteArtifacts
  -- Clients methods.
  | searchClients | getClient | getClientVersions | getClientVersionTimes | interrogateClient
  | getInterrogateOperationState | getLastClientIPAddress | listClientCrashes | listClientActionRequests
  | getClientLoadStats
  -- Virtual file system methods.
  | listFiles | getVfsFilesArchive | getFileDetails | getFileText | getFileBlob | getFileVersionTimes
  | getFileDownloadCommand | createVfsRefreshOperation | getVfsRefreshOperationState | getVfsTimeline
  | getVfsTimelineAsCsv | updateVfsFileContent | getVfsFileContentUpdateState
  -- Clients labels methods.
  | listClientsLabels | addClientsLabels | removeClientsLabels
  -- Clients flows methods.
  | listFlows | getFlow | createFlow | cancelFlow | listFlowRequests | listFlowResults | getExportedFlowResults
  | getFlowResultsExportCommand | getFlowFilesArchive | listFlowOutputPlugins | listFlowOutputPluginLogs
  | listFlowOutputPluginErrors | listFlowLogs
  -- Cron jobs methods.
  | listCronJobs | createCronJob | getCronJob | forceRunCronJob | modifyCronJob | listCronJobFlows | getCronJobFlow
  | deleteCronJob
  -- Hunts methods.
  | listHunts | getHunt | listHuntErrors | listHuntLogs | listHuntResults | getExportedHuntResults
  | getHuntResultsExportCommand | listHuntOutputPlugins | listHuntOutputPluginLogs | listHuntOutputPluginErrors
  | listHuntCrashes | getHuntClientCompletionStats | getHuntStats | listHuntClients | getHuntContext | createHunt
  | modifyHunt | deleteHunt | getHuntFilesArchive | getHuntFile
  -- Stats metrics methods.
  | listStatsStoreMetricsMetadata | getStatsStoreMetric | listReports | getReport
  -- Approvals methods.
  | createClientApproval | getClientApproval | grantClientApproval | listClientApprovals | createHuntApproval
  | getHuntApproval | grantHuntApproval | listHuntApprovals | createCronJobApproval | getCronJobApproval
  | grantCronJobApproval | listCronJobApprovals
  -- User settings methods.
  | getPendingUserNotificationsCount | listPendingUserNotifications | deletePendingUserNotification
  | listAndResetUserNotifications | getGrrUser | updateGrrUser | listPendingGlobalNotifications
  | deletePendingGlobalNotification
  -- Config methods.
  | getConfig | getConfigOption | listGrrBinaries | getGrrBinary
  -- Reflection methods.
  | listKbFields | listFlowDescriptors | listAff4AttributeDescriptors | getRDFValueDescriptor
  | listRDFValuesDescriptors | listOutputPluginDescriptors | listKnownEncodings | listApiMethods
  deriving DecidableEq

/-- How a method of the router goes about a call. -/
inductive Route where
  /-- Make the checks in order, then return `self.delegate.<Method>(args, token=token)`. -/
  | checked (checks : List AccessCheck)
  /-- `DeleteHunt`: open the hunt, and check hunt access unless the user created it. -/
  | creatorOrHuntAccess
  /-- `GetGrrUser`: the user's own settings, the binaries item enabled only for an admin. -/
  | ownUser
  /-- `ListFlowDescriptors`: a handler built with the legacy manager. -/
  | flowDescriptors

/-- The route of each method, as its body in `ApiCallRouterWithApprovalChecks` has it. -/
def ApiMethod.route : ApiMethod → Route
  -- Artifacts methods.
  | .listArtifacts | .uploadArtifact | .deleteArtifacts => .checked []
  -- Clients methods.
  | .searchClients | .getClient | .getClientVersions | .getClientVersionTimes => .checked []
  | .interrogateClient => .checked [.client]
  | .getInterrogateOperationState | .getLastClientIPAddress => .checked []
  | .listClientCrashes | .listClientActionRequests | .getClientLoadStats => .checked [.client]
  -- Virtual file system methods.
  | .listFiles | .getVfsFilesArchive | .getFileDetails | .getFileText | .getFileBlob
  | .getFileVersionTimes | .getFileDownloadCommand | .createVfsRefreshOperation => .checked [.client]
  | .getVfsRefreshOperationState => .checked []
  | .getVfsTimeline | .getVfsTimelineAsCsv | .updateVfsFileContent => .checked [.client]
  | .getVfsFileContentUpdateState => .checked []
  -- Clients labels methods.
  | .listClientsLabels | .addClientsLabels | .removeClientsLabels => .checked []
  -- Clients flows methods.
  | .listFlows | .getFlow => .checked [.client]
  | .createFlow => .checked [.client, .startFlow]
  | .cancelFlow | .listFlowRequests | .listFlowResults | .getExportedFlowResults
  | .getFlowResultsExportCommand | .getFlowFilesArchive | .listFlowOutputPlugins
  | .listFlowOutputPluginLogs | .listFlowOutputPluginErrors | .listFlowLogs => .checked [.client]
  -- Cron jobs methods.
  | .listCronJobs | .createCronJob | .getCronJob => .checked []
  | .forceRunCronJob | .modifyCronJob => .checked [.cronJob]
  | .listCronJobFlows | .getCronJobFlow => .checked []
  | .deleteCronJob => .checked [.cronJob]
  -- Hunts methods.
  | .listHunts | .getHunt | .listHuntErrors | .listHuntLogs | .listHuntResults
  | .getExportedHuntResults | .getHuntResultsExportCommand | .listHuntOutputPlugins
  | .listHuntOutputPluginLogs | .listHuntOutputPluginErrors | .listHuntCrashes
  | .getHuntClientCompletionStats | .getHuntStats | .listHuntClients | .getHuntContext | .createHunt => .checked []
  | .modifyHunt => .checked [.hunt]
  | .deleteHunt => .creatorOrHuntAccess
  | .getHuntFilesArchive | .getHuntFile => .checked [.hunt]
  -- Stats metrics methods.
  | .listStatsStoreMetricsMetadata | .getStatsStoreMetric | .listReports | .getReport => .checked []
  -- Approvals methods.
  | .createClientApproval | .getClientApproval | .grantClientApproval | .listClientApprovals
  | .createHuntApproval | .getHuntApproval | .grantHuntApproval | .listHuntApprovals
  | .createCronJobApproval | .getCronJobApproval | .grantCronJobApproval | .listCronJobApprovals => .checked []
  -- User settings methods.
  | .getPendingUserNotificationsCount | .listPendingUserNotifications | .deletePendingUserNotification
  | .listAndResetUserNotifications => .checked []
  | .getGrrUser => .ownUser
  | .updateGrrUser | .listPendingGlobalNotifications | .deletePendingGlobalNotification => .checked []
  -- Config methods.
  | .getConfig | .getConfigOption => .checked []
  | .listGrrBinaries | .getGrrBinary => .checked [.admin]
  -- Reflection methods.
  | .listKbFields => .checked []
  | .listFlowDescriptors => .flowDescriptors
  | .listAff4AttributeDescriptors | .getRDFValueDescriptor | .listRDFValuesDescriptors
  | .listOutputPluginDescriptors | .listKnownEncodings | .listApiMethods => .checked []

/-- What a call of the router returns: the handler that serves it. -/
inductive ApiHandler where
  /-- The same method of `ApiCallRouterWithoutChecks`, the router's `delegate`. -/
  | delegated (method : ApiMethod)
  /-- `ApiGetOwnGrrUserHandler`, with every interface trait on but perhaps `manage_binaries_nav_item_enabled`. -/
  | ownGrrUser (manageBinariesNavItemEnabled : Bool)
  /-- `ApiListFlowDescriptorsHandler(legacy_security_manager=self.legacy_manager)`. -/
  | listFlowDescriptors
  deriving DecidableEq

/-- A method of `ApiCallRouterWithApprovalChecks` called with its arguments and token. -/
def ApiCallRouterWithApprovalChecks.call (env : RouterEnv) (method : ApiMethod) (args : ApiArgs) (token : ACLToken) :
    Except Error ApiHandler :=
  match method.route with
  | .checked checks => do
    runChecks env args token checks
    pure (.delegated method)
  | .creatorOrHuntAccess => do
    let creator ← ApiCallRouterWithApprovalChecks.getHuntObj env args.huntId
    -- The hunt's creator is allowed to delete the hunt.
    if token.username ≠ creator then ApiCallRouterWithApprovalChecks.checkHuntAccess env args.huntId token
    pure (.delegated method)
  | .ownUser =>
    -- Only `UnauthorizedAccess` is caught, and turns the binaries item off.
    match ApiCallRouterWithApprovalChecks.checkIfUserIsAdmin env token with
    | .ok () => .ok (.ownGrrUser true)
    | .error (.unauthorizedAccess _ _ _) => .ok (.ownGrrUser false)
    | .error error => .error error
  | .flowDescriptors => .ok .listFlowDescriptors

end GrrAcl
