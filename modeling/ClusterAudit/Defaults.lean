import ClusterAudit.Asset.Kind

/-!
# The objects of a fresh cluster

A cluster is born with objects that detectors would report.  They are listed here by the names that
assets have: roles and bindings by their identities, which include the namespace where there is one,
and service accounts by their bare names.  All tables are in increasing order.
-/

namespace ClusterAudit.Defaults

def clusterRoleBindings : List String :=
  ["cluster-admin", "cluster-autoscaler-updateinfo", "default:kmsplugin", "event-exporter-rb",
    "gce:beta:kubelet-certificate-bootstrap", "gce:beta:kubelet-certificate-rotation",
    "gce:cloud-provider", "heapster-binding", "kube-apiserver-kubelet-api-admin",
    "kubelet-bootstrap", "kubelet-bootstrap-certificate-bootstrap",
    "kubelet-bootstrap-node-bootstrapper", "kubelet-cluster-admin",
    "master-monitoring-role-binding", "metrics-server:system:auth-delegator", "npd-binding",
    "stackdriver:fluentd-gcp", "stackdriver:metadata-agent",
    "storage-version-migration-crd-creator", "storage-version-migration-initializer",
    "storage-version-migration-migrator", "storage-version-migration-trigger",
    "system:basic-user", "system:clustermetrics", "system:controller:attachdetach-controller",
    "system:controller:certificate-controller",
    "system:controller:clusterrole-aggregation-controller",
    "system:controller:cronjob-controller", "system:controller:daemon-set-controller",
    "system:controller:deployment-controller", "system:controller:disruption-controller",
    "system:controller:endpoint-controller", "system:controller:expand-controller",
    "system:controller:generic-garbage-collector", "system:controller:glbc",
    "system:controller:horizontal-pod-autoscaler", "system:controller:job-controller",
    "system:controller:namespace-controller", "system:controller:node-controller",
    "system:controller:persistent-volume-binder", "system:controller:pod-garbage-collector",
    "system:controller:pv-protection-controller", "system:controller:pvc-protection-controller",
    "system:controller:replicaset-controller", "system:controller:replication-controller",
    "system:controller:resourcequota-controller", "system:controller:route-controller",
    "system:controller:service-account-controller", "system:controller:service-controller",
    "system:controller:statefulset-controller", "system:controller:ttl-controller",
    "system:discovery", "system:gcp-controller-manager", "system:gke-common-webhooks",
    "system:gke-master-resourcequota", "system:gke-uas-adapter",
    "system:gke-uas-collection-reader", "system:gke-uas-hpa-controller",
    "system:gke-uas-metrics-reader", "system:glbc-status", "system:kube-controller-manager",
    "system:kube-dns", "system:kube-dns-autoscaler", "system:kube-scheduler",
    "system:kubestore-collector", "system:managed-certificate-controller",
    "system:metrics-server", "system:node", "system:node-proxier", "system:public-info-viewer",
    "system:resource-tracker", "system:slo-monitor", "system:volume-scheduler",
    "uas-hpa-external-metrics-reader"]

def roleBindings : List String :=
  ["kube-public/system:controller:bootstrap-signer", "kube-system/fluentd-gcp-scaler-binding",
    "kube-system/gce:cloud-provider", "kube-system/heapster-binding",
    "kube-system/metrics-server-auth-reader",
    "kube-system/system::extension-apiserver-authentication-reader",
    "kube-system/system::leader-locking-kube-controller-manager",
    "kube-system/system::leader-locking-kube-scheduler",
    "kube-system/system:controller:bootstrap-signer",
    "kube-system/system:controller:cloud-provider", "kube-system/system:controller:glbc",
    "kube-system/system:controller:token-cleaner"]

def clusterRoles : List String :=
  ["admin", "cloud-provider", "cluster-admin", "edit", "gce:beta:kubelet-certificate-bootstrap",
    "gce:beta:kubelet-certificate-rotation", "gce:cloud-provider", "kubelet-api-admin",
    "read-updateinfo", "stackdriver:fluentd-gcp", "stackdriver:metadata-agent",
    "storage-version-migration-crd-creator", "storage-version-migration-initializer",
    "storage-version-migration-migrator", "storage-version-migration-trigger",
    "system:aggregate-to-admin", "system:aggregate-to-edit", "system:aggregate-to-view",
    "system:auth-delegator", "system:basic-user",
    "system:certificates.k8s.io:certificatesigningrequests:nodeclient",
    "system:certificates.k8s.io:certificatesigningrequests:selfnodeclient",
    "system:clustermetrics", "system:controller:attachdetach-controller",
    "system:controller:certificate-controller",
    "system:controller:clusterrole-aggregation-controller",
    "system:controller:cronjob-controller", "system:controller:daemon-set-controller",
    "system:controller:deployment-controller", "system:controller:disruption-controller",
    "system:controller:endpoint-controller", "system:controller:expand-controller",
    "system:controller:generic-garbage-collector", "system:controller:glbc",
    "system:controller:horizontal-pod-autoscaler", "system:controller:job-controller",
    "system:controller:namespace-controller", "system:controller:node-controller",
    "system:controller:persistent-volume-binder", "system:controller:pod-garbage-collector",
    "system:controller:pv-protection-controller", "system:controller:pvc-protection-controller",
    "system:controller:replicaset-controller", "system:controller:replication-controller",
    "system:controller:resourcequota-controller", "system:controller:route-controller",
    "system:controller:service-account-controller", "system:controller:service-controller",
    "system:controller:statefulset-controller", "system:controller:ttl-controller",
    "system:csi-external-attacher", "system:csi-external-provisioner", "system:discovery",
    "system:gcp-controller-manager", "system:gke-common-webhooks",
    "system:gke-master-resourcequota", "system:gke-uas-adapter",
    "system:gke-uas-collection-reader", "system:gke-uas-metrics-reader", "system:glbc-status",
    "system:heapster", "system:kmsplugin", "system:kube-aggregator",
    "system:kube-controller-manager", "system:kube-dns", "system:kube-dns-autoscaler",
    "system:kube-scheduler", "system:kubelet-api-admin", "system:kubestore-collector",
    "system:managed-certificate-controller", "system:master-monitoring-role",
    "system:metrics-server", "system:node", "system:node-bootstrapper",
    "system:node-problem-detector", "system:node-proxier",
    "system:persistent-volume-provisioner", "system:public-info-viewer",
    "system:resource-tracker", "system:slo-monitor", "system:volume-scheduler", "view"]

def roles : List String :=
  ["kube-public/system:controller:bootstrap-signer", "kube-system/cloud-provider",
    "kube-system/extension-apiserver-authentication-reader", "kube-system/gce:cloud-provider",
    "kube-system/system::leader-locking-kube-controller-manager",
    "kube-system/system::leader-locking-kube-scheduler",
    "kube-system/system:controller:bootstrap-signer",
    "kube-system/system:controller:cloud-provider", "kube-system/system:controller:glbc",
    "kube-system/system:controller:token-cleaner", "kube-system/system:fluentd-gcp-scaler",
    "kube-system/system:pod-nanny"]

/-- The service accounts of a fresh cluster, by bare names, since some of them are in every
namespace. -/
def serviceAccounts : List String :=
  ["attachdetach-controller", "certificate-controller", "cloud-provider",
    "clusterrole-aggregation-controller", "cronjob-controller", "daemon-set-controller",
    "default", "deployment-controller", "disruption-controller", "endpoint-controller",
    "event-exporter-sa", "expand-controller", "fluentd-gcp", "fluentd-gcp-scaler",
    "generic-garbage-collector", "heapster", "horizontal-pod-autoscaler", "job-controller",
    "kube-dns", "kube-dns-autoscaler", "metadata-agent", "metadata-proxy", "metrics-server",
    "namespace-controller", "node-controller", "persistent-volume-binder",
    "pod-garbage-collector", "prometheus-to-sd", "pv-protection-controller",
    "pvc-protection-controller", "replicaset-controller", "replication-controller",
    "resourcequota-controller", "service-account-controller", "service-controller",
    "statefulset-controller", "ttl-controller"]

/-- The names of the default objects of a kind. -/
def names : AssetKind → List String
  | .clusterRoleBinding => clusterRoleBindings
  | .roleBinding => roleBindings
  | .clusterRole => clusterRoles
  | .role => roles
  | .serviceAccount => serviceAccounts
  | .node | .pod | .podSecurityPolicy | .schedulingPair | .escalationDependency => []

/-- The names of a table that lists the default objects by kind, in increasing order and each once;
kinds that are not in the table have none. -/
def ofTable (table : List (AssetKind × List String)) (kind : AssetKind) : List String :=
  (((table.find? fun row ↦ row.1 = kind).map (·.2)).getD []).eraseDups.mergeSort fun a b ↦
    decide (a ≤ b)

end ClusterAudit.Defaults
