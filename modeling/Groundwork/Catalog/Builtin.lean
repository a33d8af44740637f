import Groundwork.Catalog

/-!
# The built-in catalog

The platform that is installed where no other catalog is named: an ingress controller, certificates,
a git host, an image registry and a build system.
-/

namespace Groundwork.Catalog.Builtin

/-- A reference to a setting. -/
def reference (name : String) : String :=
  "$\x7b" ++ name ++ "\x7d"

/-- The domain under which the services are exposed, as the units that need it declare it. -/
def systemDomain : SettingSpec :=
  { name := "system_domain"
    kind := .string
    default := some (.string "")
    description := "Domain under which platform services are exposed" }

/-- The ingress controller. -/
def traefik : UnitSpec :=
  { id := "traefik"
    kind := .ingress
    version := "9.11.0"
    description := "Traefik ingress controller"
    chart := some "traefik"
    repo := some "https://helm.traefik.io/traefik"
    values :=
      [("globalArguments", ""), ("service.spec.loadBalancerIP", reference "load_balancer_ip")]
    settings :=
      [{ name := "load_balancer_ip"
         kind := .string
         default := some (.string "")
         description := "IP address assigned to the ingress load balancer"
         isPrivate := true }]
    services := ["traefik"]
    ready := ["app.kubernetes.io/name=traefik"] }

/-- An issuer that signs certificates itself. -/
def selfSignedIssuer : List String :=
  ["apiVersion: cert-manager.io/v1",
   "kind: ClusterIssuer",
   "metadata:",
   "  name: selfsigned-issuer",
   "spec:",
   "  selfSigned: \x7b\x7d"]

/-- An issuer that has its certificates signed by a public authority. -/
def publicIssuer : List String :=
  ["apiVersion: cert-manager.io/v1",
   "kind: ClusterIssuer",
   "metadata:",
   "  name: letsencrypt-production",
   "spec:",
   "  acme:",
   "    email: \"" ++ reference "email" ++ "\"",
   "    server: https://acme-v02.api.letsencrypt.org/directory",
   "    privateKeySecretRef:",
   "      name: letsencrypt-production",
   "    solvers:",
   "      - http01:",
   "          ingress:",
   "            class: traefik"]

/-- The lines of a manifest as one text. -/
def manifest (lines : List String) : String :=
  String.join (lines.map fun line => line ++ "\n")

/-- The certificates. -/
def certManager : UnitSpec :=
  { id := "cert-manager"
    version := "v1.2.0"
    description := "Certificate management for TLS ingress"
    chart := some "cert-manager"
    repo := some "https://charts.jetstack.io"
    values :=
      [("installCRDs", "true"), ("extraArgs[0]", "--enable-certificate-owner-ref=true")]
    settings :=
      [{ name := "email"
         kind := .string
         default := some (.string "")
         description := "Contact address for the ACME account"
         isPrivate := true }]
    crds :=
      ["certificates.cert-manager.io", "clusterissuers.cert-manager.io",
        "issuers.cert-manager.io"]
    ready := ["app.kubernetes.io/instance=cert-manager"]
    postApply := [manifest selfSignedIssuer, manifest publicIssuer] }

/-- The git host. -/
def gitea : UnitSpec :=
  let host := "gitea." ++ reference "system_domain"
  { id := "gitea"
    version := "2.1.3"
    description := "Git hosting for application sources"
    chart := some "gitea"
    repo := some "https://dl.gitea.io/charts"
    values :=
      [("ingress.enabled", "true"), ("ingress.hosts[0].host", host),
       ("gitea.config.server.DOMAIN", host),
       ("gitea.config.server.ROOT_URL", "http://" ++ host),
       ("gitea.admin.username", reference "gitea_admin")]
    settings :=
      [systemDomain,
       { name := "gitea_admin"
         kind := .string
         default := some (.string "dev")
         description := "Name of the gitea administrator"
         isPrivate := true }]
    ready := ["app.kubernetes.io/name=gitea"] }

/-- The image registry. -/
def registry : UnitSpec :=
  { id := "registry"
    version := "1.10.1"
    description := "In-cluster container image registry"
    chart := some "docker-registry"
    repo := some "https://helm.twun.io"
    values :=
      [("ingress.enabled", "true"), ("ingress.hosts[0]", "registry." ++ reference "system_domain"),
       ("persistence.enabled", reference "registry_persistence")]
    settings :=
      [systemDomain,
       { name := "registry_persistence"
         kind := .boolean
         default := some (.bool false)
         description := "Keep registry images on a persistent volume"
         isPrivate := true }]
    skipSetting := some "skip_registry"
    ready := ["app=docker-registry"] }

/-- The build system. -/
def tekton : UnitSpec :=
  { id := "tekton-pipelines"
    kind := .manifest
    version := "v0.23.0"
    description := "Tekton pipelines for application builds"
    manifest := some ("https://storage.googleapis.com/tekton-releases/pipeline/previous/v0.23.0/"
      ++ "release.yaml")
    crds :=
      ["pipelines.tekton.dev", "pipelineruns.tekton.dev", "tasks.tekton.dev",
        "taskruns.tekton.dev"]
    ready := ["app.kubernetes.io/part-of=tekton-pipelines"] }

end Groundwork.Catalog.Builtin

namespace Groundwork.Catalog

/-- The built-in catalog. -/
def builtin : Catalog :=
  { units := [Builtin.traefik, Builtin.certManager, Builtin.gitea, Builtin.registry,
      Builtin.tekton] }

end Groundwork.Catalog
