import ClusterAudit.Detector.Basic

/-!
# Detectors of pod security policies

Each detector looks at one field of a policy and gives the offending value.
-/

namespace ClusterAudit.Detector

def policyDocs : String := "https://kubernetes.io/docs/concepts/policy/pod-security-policy/"

def hostNamespacesDocs : String := policyDocs ++ "#host-namespaces"

def capabilitiesDocs : String := policyDocs ++ "#capabilities"

def separatePolicy (need : String) : String :=
  "If you have need to run containers which require " ++ need ++
    ", this should be defined in a separate PSP and you should carefully check RBAC controls to " ++
    "ensure that only limited service accounts and users are given permission to access that " ++
    "PSP. "

def omitOrSet (field value : String) : String :=
  "Create a PSP as described in the Kubernetes documentation, ensuring that the " ++ field ++
    " field is omitted or set to " ++ value ++ "."

def flagEvidence (flag : PodSecurityPolicy → Bool) (key : String) (policy : PodSecurityPolicy) :
    Except Fault (List Detail) :=
  .ok (if flag policy then [.ofText key "true"] else [])

/-- The strategy that admits the root user, when it neither excludes root nor gives ranges that all
start above zero. -/
def rootEvidence (policy : PodSecurityPolicy) : Except Fault (List Detail) :=
  match policy.runAsUser with
  | none => .ok []
  | some strategy =>
    if strategy.rule.same (.text "MustRunAsNonRoot") then .ok []
    else if strategy.rule.same (.text "MustRunAs") && strategy.ranges.all (·.1 ≠ 0) then .ok []
    else do return [.ofText "RunAs" (← strategy.describe)]

/-- The dropped capabilities, when there is such a list and raw network access stays. -/
def netRawEvidence (policy : PodSecurityPolicy) : Except Fault (List Detail) :=
  match policy.requiredDropCapabilities with
  | none => .ok []
  | some dropped =>
    if dropped.contains "ALL" || dropped.contains "NET_RAW" then .ok []
    else .ok [.ofText "Required Drop Capabilities" (Manifest.bracketed dropped)]

def addedCapabilitiesEvidence (policy : PodSecurityPolicy) : Except Fault (List Detail) :=
  if policy.allowedCapabilities.isEmpty then .ok []
  else .ok [.ofText "Allowed capabilities" (Manifest.bracketed policy.allowedCapabilities)]

/-- The dropped capabilities, when not all are dropped; without a list none is. -/
def keptCapabilitiesEvidence (policy : PodSecurityPolicy) : Except Fault (List Detail) :=
  let dropped := policy.requiredDropCapabilities.getD []
  if dropped.contains "ALL" then .ok []
  else .ok [.ofText "Required Drop Capabilities" (Manifest.bracketed dropped)]

def podSecurity (name : String) (evidence : PodSecurityPolicy → Except Fault (List Detail))
    (explanation recommendation : String) (urls : List String) : Detector where
  name
  kinds := [.podSecurityPolicy]
  check := fun asset ↦
    match asset with
    | .podSecurityPolicy policy => evidence policy
    | _ => .ok []
  explanation
  recommendation
  urls := (policyDocs ++ "#enabling-pod-security-policies") :: urls

def privilegedContainers : Detector :=
  podSecurity "PRIVILEGED_CONTAINERS" (flagEvidence (·.privileged) "Privileged")
    ("Privileged containers have access to all Linux Kernel capabilities and devices. A " ++
      "container running with full privileges can do almost everything that the host can do. This " ++
      "flag exists to allow special use-cases, like manipulating the network stack and accessing " ++
      "devices. There should be at least one PodSecurityPolicy (PSP) defined which does not " ++
      "permit privileged containers.")
    (separatePolicy "privileges" ++
      omitOrSet ".spec.privileged" "false")
    [policyDocs ++ "#privileged",
      "https://www.nccgroup.com/uk/our-research/abusing-privileged-and-unprivileged-linux-containers/"]

/-- Finds the policies that admit containers into the process namespace of the host. -/
def containersSharingHostProcessIdNamespace : Detector :=
  podSecurity "CONTAINERS_SHARING_HOST_PROCESS_ID_NAMESPACE" (flagEvidence (·.hostPID) "HostPID")
    ("A container running in the host's PID namespace can inspect processes running outside the " ++
      "container. If the container also has access to ptrace capabilities this can be used to " ++
      "escalate privileges outside of the container. There should be at least one " ++
      "PodSecurityPolicy (PSP) defined which does not permit containers to share the host PID " ++
      "namespace.")
    (separatePolicy "hostPID" ++
      omitOrSet ".spec.hostPID" "false")
    [hostNamespacesDocs]

/-- Finds the policies that admit containers into the IPC namespace of the host. -/
def containersSharingHostIpcNamespace : Detector :=
  podSecurity "CONTAINERS_SHARING_HOST_IPC_NAMESPACE" (flagEvidence (·.hostIPC) "HostIPC")
    ("A container running in the host's IPC namespace can use IPC to interact with processes " ++
      "outside the container. There should be at least one PodSecurityPolicy (PSP) defined which " ++
      "does not permit containers to share the host IPC namespace.")
    (separatePolicy "hostIPC" ++
      omitOrSet ".spec.hostIPC" "false")
    [hostNamespacesDocs]

/-- Finds the policies that admit containers into the network of the host. -/
def containerSharingHostNetworkNamespace : Detector :=
  podSecurity "CONTAINER_SHARING_HOST_NETWORK_NAMESPACE" (flagEvidence (·.hostNetwork) "HostNetwork")
    ("A container running in the host's network namespace could access the local loopback " ++
      "device, and could access network traffic to and from other pods. There should be at least " ++
      "one PodSecurityPolicy (PSP) defined which does not permit containers to share the host " ++
      "network namespace.")
    (separatePolicy "hostNetwork" ++
      omitOrSet ".spec.hostNetwork" "false")
    [hostNamespacesDocs]

def containerAllowPrivilegeEscalation : Detector :=
  podSecurity "CONTAINER_ALLOW_PRIVILEGE_ESCALATION"
    (flagEvidence (·.allowPrivilegeEscalation) "AllowPrivilegeEscalation")
    ("A container running with the allowPrivilegeEscalation flag set to true may have processes " ++
      "that can gain more privileges than their parent. There should be at least one " ++
      "PodSecurityPolicy (PSP) defined which does not permit containers to allow privilege " ++
      "escalation. The option exists (and is defaulted to true) to permit setuid binaries to run.")
    (separatePolicy "setuid binaries or require privilege escalation" ++
      omitOrSet ".spec.allowPrivilegeEscalation" "false")
    [policyDocs ++ "#privilege-escalation"]

def rootContainersAdmission : Detector :=
  podSecurity "ROOT_CONTAINERS_ADMISSION" rootEvidence
    ("Containers may run as any Linux user. Containers which run as the root user, whilst " ++
      "constrained by Container Runtime security features still have an escalated likelihood of " ++
      "container breakout. Ideally, all containers should run as a defined non-UID 0 user. There " ++
      "should be at least one PodSecurityPolicy (PSP) defined which does not permit root users in " ++
      "a container.")
    (separatePolicy "root containers" ++
      omitOrSet ".spec.runAsUser.rule"
        "either MustRunAsNonRoot or MustRunAs with the range of UIDs not including 0")
    [policyDocs ++ "#volumes-and-file-systems", policyDocs ++ "#users-and-groups"]

/-- Finds the policies that do not drop raw network access. -/
def containersNetRawCapabilities : Detector :=
  podSecurity "CONTAINERS_NET_RAW_CAPABILITIES" netRawEvidence
    ("Containers run with a default set of capabilities as assigned by the Container Runtime. By " ++
      "default, this can include potentially dangerous capabilities. With Docker as the container " ++
      "runtime the NET_RAW capability is enabled which may be misused by malicious containers. " ++
      "Ideally, all containers should drop this capability. There should be at least one " ++
      "PodSecurityPolicy (PSP) defined which prevents containers with the NET_RAW capability from " ++
      "launching.")
    (separatePolicy "NET_RAW capability" ++
      omitOrSet ".spec.requiredDropCapabilities" "either NET_RAW or ALL")
    [capabilitiesDocs]

def containersAddedCapabilities : Detector :=
  podSecurity "CONTAINERS_ADDED_CAPABILITIES" addedCapabilitiesEvidence
    ("Containers run with a default set of capabilities as assigned by the Container Runtime. " ++
      "Capabilities outside this set can be added to containers which could expose them to risks " ++
      "of container breakout attacks. There should be at least one PodSecurityPolicy (PSP) " ++
      "defined which prevents containers with capabilities beyond the default set from launching.")
    (separatePolicy "additional capabilities" ++
      "Ensure that allowedCapabilities is not present in PSPs for the cluster unless it is set " ++
        "to an empty array.")
    [capabilitiesDocs]

/-- Finds the policies that do not drop all capabilities. -/
def containersCapabilitiesAssigned : Detector :=
  podSecurity "CONTAINERS_CAPABILITIES_ASSIGNED" keptCapabilitiesEvidence
    ("Containers run with a default set of capabilities as assigned by the Container Runtime. " ++
      "Capabilities are parts of the rights generally granted on a Linux system to the root user. " ++
      "In many cases applications running in containers do not require any capabilities to " ++
      "operate, so from the perspective of the principal of least privilege use of capabilities " ++
      "should be minimized.")
    ("Review the use of capabilities in applications running on your cluster. Where a " ++
        "namespace contains applications which do not require any Linux capabilities to operate " ++
        "consider adding a PSP which forbids the admission of containers which do not drop all " ++
        "capabilities.")
    [capabilitiesDocs]

/-- The detectors of pod security policies, in catalog order. -/
def podSecurityCatalog : List Detector :=
  [privilegedContainers,
    containersSharingHostProcessIdNamespace,
    containersSharingHostIpcNamespace,
    containerSharingHostNetworkNamespace,
    containerAllowPrivilegeEscalation,
    rootContainersAdmission,
    containersNetRawCapabilities,
    containersAddedCapabilities,
    containersCapabilitiesAssigned]

end ClusterAudit.Detector
